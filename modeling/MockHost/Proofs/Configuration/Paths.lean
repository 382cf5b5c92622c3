import MockHost.FileTree
import Mathlib.Data.List.TakeWhile

/-!
# Texts That Are Not Paths

Some texts cannot be given to the system as paths. Whatever is asked of the tree by such a text
fails for this reason, and by any other text never does: the reason is found before anything is
looked up. With the directories around a file it is the same, although they are made one by one, as
every character in their paths comes from the path of the file or stands between the parts.

## Theorems

* `Path.fault?_eq_none_iff`: When a text is a path.
* `Path.fault?_above`: The directories that a path runs through have paths.
* `FileTree.find_path_iff`, `FileTree.write_path_iff`, `FileTree.makeDirectory_path_iff`: What is
  asked of a tree fails for the text exactly if it is not a path.
-/

namespace MockHost

namespace Path

/-- A text is a path if each of its characters may stand in one. -/
theorem fault?_eq_none_iff (p : Text) :
    fault? p = none ↔ ∀ c ∈ p, isByteless c = false ∧ c ≠ 0 := by
  rw [fault?]
  cases hfind : p.findIdx? isByteless with
  | some i =>
      refine ⟨nofun, fun h => ?_⟩
      have hall : p.findIdx? isByteless = none :=
        List.findIdx?_eq_none_iff.mpr fun c hc => (h c hc).1
      injection hfind.symm.trans hall
  | none =>
      have hall := List.findIdx?_eq_none_iff.mp hfind
      dsimp only
      split
      · rename_i hzero
        exact ⟨nofun, fun h => absurd rfl (h 0 (List.contains_iff_mem.mp hzero)).2⟩
      · rename_i hzero
        refine ⟨fun _ c hc => ⟨hall c hc, fun h => ?_⟩, fun _ => rfl⟩
        exact hzero (List.contains_iff_mem.mpr (h ▸ hc))

/-! ### The characters of a path -/

theorem mem_of_mem_splitOn {separator c : CodePoint} {t part : Text}
    (hpart : part ∈ t.splitOn separator) (hc : c ∈ part) : c ∈ t := by
  induction t generalizing part with
  | nil =>
      rw [List.mem_singleton.mp hpart] at hc
      exact hc
  | cons x t ih =>
      rw [Text.splitOn, List.foldr_cons] at hpart
      split at hpart
      · -- The character separates, and an empty part comes before those of the rest.
        rcases List.mem_cons.mp hpart with rfl | hpart
        · exact absurd hc List.not_mem_nil
        · exact List.mem_cons_of_mem x (ih hpart hc)
      · -- The character joins the first part of the rest.
        split at hpart
        · rw [List.mem_singleton.mp hpart] at hc
          exact List.mem_singleton.mp hc ▸ List.mem_cons_self
        · rename_i first others hrest
          have hall : ∀ q ∈ first :: others, c ∈ q → c ∈ t := by
            rw [← hrest]
            exact fun q hq => ih hq
          rcases List.mem_cons.mp hpart with rfl | hpart
          · rcases List.mem_cons.mp hc with rfl | hc
            · exact List.mem_cons_self
            · exact List.mem_cons_of_mem x (hall first List.mem_cons_self hc)
          · exact List.mem_cons_of_mem x (hall part (List.mem_cons_of_mem first hpart) hc)

theorem mem_of_mem_parts {p part : Text} {c : CodePoint} (hpart : part ∈ parts p) (hc : c ∈ part) :
    c ∈ p :=
  mem_of_mem_splitOn (List.mem_filter.mp hpart).1 hc

theorem eq_slash_of_mem_root {p : Text} {c : CodePoint} (hc : c ∈ root p) : c = 47 := by
  have hslashes : c ∈ p.takeWhile (· == 47) := by
    rw [root] at hc
    split at hc
    · exact hc
    · exact List.mem_of_mem_take hc
  have hslash := List.mem_takeWhile_imp hslashes
  exact eq_of_beq hslash

theorem mem_join {separator : Text} {l : List Text} {c : CodePoint}
    (hc : c ∈ Text.join separator l) : c ∈ separator ∨ ∃ part ∈ l, c ∈ part := by
  induction l with
  | nil => exact absurd hc List.not_mem_nil
  | cons first rest ih =>
      cases rest with
      | nil => exact .inr ⟨first, List.mem_cons_self, hc⟩
      | cons second rest =>
          rw [Text.join, List.append_assoc, List.mem_append, List.mem_append] at hc
          · rcases hc with hc | hc | hc
            · exact .inr ⟨first, List.mem_cons_self, hc⟩
            · exact .inl hc
            · exact (ih hc).imp_right fun ⟨part, hpart, hc⟩ =>
                ⟨part, List.mem_cons_of_mem first hpart, hc⟩
          · exact nofun

/-- Every character of the path of a directory that a path runs through is one of the path, or a
    slash or a dot. -/
theorem mem_of_mem_above {p up : Text} {c : CodePoint} (hup : up ∈ above p) (hc : c ∈ up) :
    c ∈ p ∨ c = 47 ∨ c = 46 := by
  rcases List.mem_map.mp hup with ⟨n, -, rfl⟩
  rw [ofParts] at hc
  split at hc
  · exact .inr (.inr (List.mem_singleton.mp hc))
  · rcases List.mem_append.mp hc with hc | hc
    · exact .inr (.inl (eq_slash_of_mem_root hc))
    · rcases mem_join hc with hc | ⟨part, hpart, hc⟩
      · exact .inr (.inl (List.mem_singleton.mp hc))
      · exact .inl (mem_of_mem_parts (List.mem_of_mem_take hpart) hc)

/-- The directories that a path runs through have paths. -/
theorem fault?_above {p up : Text} (h : fault? p = none) (hup : up ∈ above p) :
    fault? up = none := by
  rw [fault?_eq_none_iff] at h ⊢
  intro c hc
  rcases mem_of_mem_above hup hc with hc | rfl | rfl
  · exact h c hc
  · decide
  · decide

end Path

namespace FileTree

section

variable {t : FileTree} {path : Text} {f : Path.Fault}

theorem find_path_iff : t.find path = .error (.path f) ↔ Path.fault? path = some f := by
  rw [find]
  cases hfault : Path.fault? path with
  | some g => simp
  | none =>
      dsimp only
      refine ⟨fun h => ?_, nofun⟩
      split at h
      · injection h with h
        injection h
      · cases hfollow : t.follow (Path.start t.workingDirectory path) (Path.names path) with
        | error n =>
            rw [hfollow] at h
            injection h with h
            injection h
        | ok e =>
            rw [hfollow] at h
            injection h

theorem putIn_ne_path (changed : List Text) (path : Text) (e : Entry) :
    t.putIn changed path e ≠ .error (.path f) := by
  rw [putIn]
  split
  · exact fun h => by injection h with h; injection h
  · exact nofun

theorem read_path_iff : t.read path = .error (.path f) ↔ Path.fault? path = some f := by
  rw [← find_path_iff (t := t), FileTree.read]
  cases t.find path with
  | error e => simp
  | ok found =>
      cases found with
      | none => simp [FileError.numbered]
      | some e =>
          cases t.refusal? .read (t.placeOf path) with
          | some n => simp [FileError.numbered]
          | none => cases e <;> simp [FileError.numbered]

theorem write_path_iff {content : Bytes} :
    t.write path content = .error (.path f) ↔ Path.fault? path = some f := by
  rw [← find_path_iff (t := t), write, change]
  cases t.find path with
  | error e => simp
  | ok found =>
      cases found with
      | none => simp [putIn_ne_path]
      | some e => cases e <;> simp [putIn_ne_path, FileError.numbered]

theorem makeOne_path_iff : t.makeOne path = .error (.path f) ↔ Path.fault? path = some f := by
  rw [← find_path_iff (t := t), makeOne]
  cases t.find path with
  | error e => simp
  | ok found => cases found <;> simp [putIn_ne_path, FileError.numbered]

theorem ensureOne_path_iff : t.ensureOne path = .error (.path f) ↔ Path.fault? path = some f := by
  rw [← makeOne_path_iff (t := t), ensureOne]
  cases t.makeOne path with
  | ok made => simp
  | error e =>
      cases e with
      | path g => simp
      | system e =>
          dsimp only
          refine ⟨fun h => ?_, fun h => by injection h with h; injection h⟩
          split at h
          · injection h
          · injection h with h
            injection h
          · injection h with h
            injection h

theorem ensure_of_fault (h : Path.fault? path = some f) (above : List Text) :
    t.ensure path above = .error (.path f, t) := by
  have hone : (t.ensureOne path).mapError (fun e => (e, t)) = .error (.path f, t) := by
    rw [ensureOne_path_iff.mpr h]
    rfl
  cases above with
  | nil => exact hone
  | cons directory above =>
      rw [ensure, makeOne_path_iff.mpr h]
      exact hone

theorem ensureOne_ne_path (h : Path.fault? path = none) (files : FileTree) :
    (t.ensureOne path).mapError (fun e => (e, t)) ≠ .error (.path f, files) := by
  cases hensure : t.ensureOne path with
  | ok made => exact nofun
  | error e =>
      intro hfails
      injection hfails with hfails
      injection hfails with hfails
      rw [hfails] at hensure
      injection h.symm.trans (ensureOne_path_iff.mp hensure)

theorem ensure_ne_path {above : List Text} (h : Path.fault? path = none)
    (habove : ∀ up ∈ above, Path.fault? up = none) (files : FileTree) :
    t.ensure path above ≠ .error (.path f, files) := by
  -- On the directories above, which have paths as well.
  induction above generalizing path with
  | nil => exact ensureOne_ne_path h files
  | cons directory above ih =>
      rw [ensure]
      cases t.makeOne path with
      | ok made => exact nofun
      | error e =>
          dsimp only
          split
          · have hdirectory := ih (habove directory List.mem_cons_self) fun up hup =>
              habove up (List.mem_cons_of_mem directory hup)
            cases hensure : t.ensure directory above with
            | error e => rwa [hensure] at hdirectory
            | ok made => exact ensureOne_ne_path h files
          · exact ensureOne_ne_path h files

theorem makeDirectory_path_iff :
    (∃ files, t.makeDirectory path = .error (.path f, files)) ↔ Path.fault? path = some f := by
  refine ⟨fun ⟨files, hmake⟩ => ?_, fun h => ⟨t, ensure_of_fault h _⟩⟩
  cases hfault : Path.fault? path with
  | none => exact absurd hmake (ensure_ne_path hfault (fun up => Path.fault?_above hfault) files)
  | some g =>
      rw [makeDirectory, ensure_of_fault hfault] at hmake
      injection hmake with hmake
      injection hmake with hmake
      injection hmake with hmake
      rw [hmake]

end

end FileTree

end MockHost
