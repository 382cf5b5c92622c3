import MockHost.FileTree
import Mathlib.Data.List.Basic

/-!
# What Stays in a File Tree

Directories are made and a file is put in place, and what was in the tree before is meant to be
still there. Making directories is harmless, since nothing is put but where there was nothing. A
file that is put in place takes the place of another one if there is one, so that it must be known
beforehand that there is none.

It is not enough that the path of the file leads to nothing. A path that goes up again from a
directory that is not there leads to nothing, whatever lies where it would go, and once that
directory has been made it leads there. That is the only way in which it can happen. A path that
never goes up runs through the directories above its place and no others, and if some path leads to
a place at all, these are there.

Where a path leads is split into two questions, whether there is a way and what lies at its end.
`Passable` is the first one. It asks for directories and for leave to look for the next name, so
neither more directories nor another file can close a way, and what follows for paths is about their
ends.

## Main definitions

* `FileTree.Extends`: Directories have been added, and nothing else has changed.
* `FileTree.Keeps`: Whatever was there is there still.
* `FileTree.Passable`, `FileTree.Passes`: There is a way along parts of a path.
* `FileTree.Reached`: Everything above a place is a directory.
* `Path.Climbs`: A path goes up somewhere.

## Theorems

* `FileTree.makeDirectory_extends`: Making a directory.
* `FileTree.find_eq_ok_iff`: Where a path leads.
* `FileTree.Keeps.read`: A file that can be read can still be read.
* `FileTree.read_put_of_ne`: A file that is put in place changes only what leads there.
* `FileTree.write_eq_ok`: Writing a file.
* `FileTree.placeOf_ne_of_missing`: Where a path that leads to nothing would go.
-/

namespace MockHost

/-- The path goes up somewhere. -/
def Path.Climbs (p : Text) : Prop := Text.ofString ".." ∈ Path.parts p

namespace Path

theorem dot_notMem_parts (p : Text) : Text.ofString "." ∉ parts p := by
  intro h
  have hkept := (List.mem_filter.mp h).2
  rw [bne_self_eq_false, Bool.and_false] at hkept
  injection hkept

/-- A name that is neither a dot nor two of them is added to the place. -/
theorem step_of_ne {name : Text} (hup : name ≠ Text.ofString "..") (hdot : name ≠ Text.ofString ".")
    (place : List Text) : step place name = place ++ [name] := by
  rw [step, if_neg hup, if_neg hdot]

theorem foldl_step_of_notMem {names : List Text} (hup : Text.ofString ".." ∉ names)
    (hdot : Text.ofString "." ∉ names) (place : List Text) :
    names.foldl step place = place ++ names := by
  induction names generalizing place with
  | nil => rw [List.foldl_nil, List.append_nil]
  | cons name rest ih =>
      rw [List.mem_cons, not_or] at hup hdot
      rw [List.foldl_cons, step_of_ne (Ne.symm hup.1) (Ne.symm hdot.1), ih hup.2 hdot.2,
        List.append_assoc]
      rfl

/-- The names on the way are the parts, unless there are none. Then the way stays where it starts,
    which is the working directory. -/
theorem names_cases (workingDirectory : List Text) (p : Text) :
    names p = parts p ∨ names p = [Text.ofString "."] ∧
      start workingDirectory p = workingDirectory := by
  rw [names]
  cases hempty : (root p).isEmpty && (parts p).isEmpty with
  | false => exact .inl rfl
  | true =>
      refine .inr ⟨rfl, if_neg fun habsolute => ?_⟩
      -- A path from the root starts with a slash.
      have hroot := (Bool.and_eq_true_iff.mp hempty).1
      cases p with
      | nil => injection habsolute
      | cons c p =>
          rw [isAbsolute, List.head?_cons] at habsolute
          have hc : c = 47 := Option.some.inj (eq_of_beq habsolute)
          rw [hc, root, List.takeWhile_cons, beq_self_eq_true, if_pos rfl] at hroot
          split at hroot <;> injection hroot

end Path

namespace FileTree

/-- Directories have been added to the tree, and nothing else has changed. -/
structure Extends (t t' : FileTree) : Prop where
  workingDirectory : t'.workingDirectory = t.workingDirectory
  refusals : t'.refusals = t.refusals
  entry : ∀ p, t'.entry? p = t.entry? p ∨ t.entry? p = none ∧ t'.entry? p = some .directory

/-- Whatever is in the tree is there still. -/
structure Keeps (t t' : FileTree) : Prop where
  workingDirectory : t'.workingDirectory = t.workingDirectory
  refusals : t'.refusals = t.refusals
  entry : ∀ p e, t.entry? p = some e → t'.entry? p = some e

/-- There is a way from a place along names: every place on it is a directory in which the next name
    may be looked for. What lies at its end is left open. -/
def Passable (t : FileTree) (place : List Text) : List Text → Prop
  | [] => True
  | name :: rest => t.entry? place = some .directory ∧ t.barrier? place name = none ∧
      t.Passable (Path.step place name) rest

/-- There is a way along the whole path. -/
structure Passes (t : FileTree) (path : Text) : Prop where
  sound : Path.fault? path = none
  short : ¬ Path.longest < Path.size path
  way : t.Passable (Path.start t.workingDirectory path) (Path.names path)

/-- Everything above the place is a directory. -/
def Reached (t : FileTree) (place : List Text) : Prop :=
  ∀ p, p <+: place → p ≠ place → t.entry? p = some .directory

/-- The tree that a change leaves, even if it fails. -/
def leftBy : Except (FileError × FileTree) FileTree → FileTree
  | .ok t => t
  | .error e => e.2

section

variable {t t' t'' : FileTree} {place p names : List Text} {e : Entry}

/-! ### Entries -/

/-- The working directory is there, with everything above it. -/
theorem lookup_above (h : place <+: t.workingDirectory) : t.entry? place = some .directory :=
  if_pos (List.isPrefixOf_iff_prefix.mpr h)

/-- What is put at a place is found there and nowhere else, except at the places of directories
    that are always there. -/
theorem lookup_put (h : t.entry? place ≠ some .directory) (e : Entry) (p : List Text) :
    entry? (t.put place e) p = if p = place then some e else t.entry? p := by
  have hfree : place.isPrefixOf t.workingDirectory = false := by
    by_contra habove
    rw [Bool.not_eq_false] at habove
    exact h (lookup_above (List.isPrefixOf_iff_prefix.mp habove))
  by_cases hp : p = place
  · subst hp
    -- Every older entry of the place has been taken out.
    have hgone : (t.entries.filter fun old => old.1 != p).find? (fun x => x.1 == p) = none := by
      rw [List.find?_eq_none]
      intro x hx hxp
      have hne := (List.mem_filter.mp hx).2
      rw [bne_iff_ne] at hne
      exact hne (eq_of_beq hxp)
    rw [if_pos rfl, entry?, put, hfree]
    simp only [Bool.false_eq_true, if_false, List.find?_append, hgone, Option.none_or,
      List.find?_cons, beq_self_eq_true, Option.map_some]
  · -- The entries of other places have been left in.
    have hsame : (t.entries.filter fun old => old.1 != place).find? (fun x => x.1 == p) =
        t.entries.find? fun x => x.1 == p := by
      rw [List.find?_filter]
      congr 1
      funext x
      by_cases hx : x.1 = p
      · simp [hx, hp]
      · simp [hx]
    have hnew : (place == p) = false := beq_eq_false_iff_ne.mpr (Ne.symm hp)
    rw [if_neg hp, entry?, entry?, put]
    simp only [List.find?_append, hsame, List.find?_cons, hnew, List.find?_nil, Option.or_none]

/-- What the system refuses does not depend on what there is. -/
theorem refusal?_congr (h : t'.refusals = t.refusals) (access : Access) (place : List Text) :
    t'.refusal? access place = t.refusal? access place := by
  rw [refusal?, h, refusal?]

theorem barrier?_congr (h : t'.refusals = t.refusals) (place : List Text) (name : Text) :
    t'.barrier? place name = t.barrier? place name := by
  rw [barrier?, refusal?_congr h, barrier?]

theorem Extends.refl (t : FileTree) : t.Extends t := ⟨rfl, rfl, fun _ => .inl rfl⟩

theorem Extends.trans (h : t.Extends t') (h' : t'.Extends t'') : t.Extends t'' := by
  refine ⟨h'.workingDirectory.trans h.workingDirectory, h'.refusals.trans h.refusals, fun p => ?_⟩
  rcases h.entry p with hold | ⟨hnone, hnew⟩
  · rw [← hold]
    exact h'.entry p
  · -- What has been added is not added again.
    rcases h'.entry p with hold | ⟨hnone', -⟩
    · exact .inr ⟨hnone, hold.trans hnew⟩
    · rw [hnew] at hnone'
      injection hnone'

theorem extends_put (h : t.entry? place = none) : t.Extends (t.put place .directory) := by
  refine ⟨rfl, rfl, fun p => ?_⟩
  rw [lookup_put (by rw [h]; exact nofun)]
  by_cases hp : p = place
  · rw [if_pos hp, hp]
    exact .inr ⟨h, rfl⟩
  · rw [if_neg hp]
    exact .inl rfl

theorem Extends.keeps (h : t.Extends t') : t.Keeps t' := by
  refine ⟨h.workingDirectory, h.refusals, fun p e he => ?_⟩
  rcases h.entry p with hold | ⟨hnone, -⟩
  · rw [hold, he]
  · rw [he] at hnone
    injection hnone

theorem Extends.placeOf (h : t.Extends t') (path : Text) : t'.placeOf path = t.placeOf path := by
  rw [FileTree.placeOf, h.workingDirectory, FileTree.placeOf]

/-! ### Ways -/

theorem Passable.keeps (hway : t.Passable place names) (h : t.Keeps t') :
    t'.Passable place names := by
  induction names generalizing place with
  | nil => exact True.intro
  | cons name rest ih =>
      exact ⟨h.entry _ _ hway.1, (barrier?_congr h.refusals _ _).trans hway.2.1, ih hway.2.2⟩

/-- What is put where there is no directory is on no way. -/
theorem Passable.put (hway : t.Passable p names) (hplace : t.entry? place ≠ some .directory)
    (new : Entry) : (t.put place new).Passable p names := by
  induction names generalizing p with
  | nil => exact True.intro
  | cons name rest ih =>
      -- The first place on the way is a directory, so it is another one.
      have hother : p ≠ place := fun hp => hplace (hp ▸ hway.1)
      refine ⟨?_, (barrier?_congr rfl _ _).trans hway.2.1, ih hway.2.2⟩
      rw [lookup_put hplace, if_neg hother, hway.1]

/-- A path leads somewhere if there is a way, and then to what lies at its end. -/
theorem follow_eq_ok_iff {found : Option Entry} : t.follow place names = .ok found ↔
    t.Passable place names ∧ t.entry? (names.foldl Path.step place) = found := by
  induction names generalizing place with
  | nil =>
      rw [follow, Except.ok.injEq]
      exact ⟨fun h => ⟨True.intro, h⟩, And.right⟩
  | cons name rest ih =>
      rw [follow, Passable, List.foldl_cons]
      cases hentry : t.entry? place with
      | none => exact ⟨nofun, fun h => nomatch h.1.1⟩
      | some e =>
          cases e with
          | file content => exact ⟨nofun, fun h => nomatch h.1.1⟩
          | directory =>
              dsimp only
              cases hbarrier : t.barrier? place name with
              | some n => exact ⟨nofun, fun h => nomatch h.1.2.1⟩
              | none =>
                  dsimp only
                  rw [ih]
                  exact ⟨fun h => ⟨⟨rfl, rfl, h.1⟩, h.2⟩, fun h => ⟨h.1.2.2, h.2⟩⟩

/-! ### Paths -/

section

variable {path : Text} {content : Bytes} {found : Option Entry}

theorem find_eq_ok_iff :
    t.find path = .ok found ↔ t.Passes path ∧ t.entry? (t.placeOf path) = found := by
  rw [find]
  cases hfault : Path.fault? path with
  | some f => exact ⟨nofun, fun h => nomatch hfault.symm.trans h.1.sound⟩
  | none =>
      dsimp only
      by_cases hlong : Path.longest < Path.size path
      · rw [if_pos hlong]
        exact ⟨nofun, fun h => absurd hlong h.1.short⟩
      · rw [if_neg hlong]
        have hway : t.follow (Path.start t.workingDirectory path) (Path.names path) = .ok found ↔
            t.Passable _ _ ∧ t.entry? (t.placeOf path) = found := follow_eq_ok_iff
        refine ⟨fun h => ?_, fun h => ?_⟩
        · cases hfollow : t.follow (Path.start t.workingDirectory path) (Path.names path) with
          | error n =>
              rw [hfollow] at h
              injection h
          | ok e =>
              rw [hfollow] at h hway
              rcases hway.mp (by injection h with h; rw [h]) with ⟨hpassable, hend⟩
              exact ⟨⟨hfault, hlong, hpassable⟩, hend⟩
        · rw [hway.mpr ⟨h.1.way, h.2⟩]
          rfl

/-- A path leads to something only if there is a way. -/
theorem passes_of_holds (h : t.holds path = .ok true) : t.Passes path := by
  rw [holds, asks] at h
  cases hfind : t.find path with
  | ok found => exact (find_eq_ok_iff.mp hfind).1
  | error e =>
      rw [hfind] at h
      cases e with
      | path f =>
          injection h with h
          injection h
      | system e =>
          dsimp only at h
          split at h
          · injection h with h
            injection h
          · injection h

theorem Passes.keeps (hpath : t.Passes path) (h : t.Keeps t') : t'.Passes path := by
  refine ⟨hpath.sound, hpath.short, ?_⟩
  rw [h.workingDirectory]
  exact hpath.way.keeps h

/-- What a path leads to, it still leads to. -/
theorem Keeps.find (h : t.Keeps t') (hfound : t.find path = .ok (some e)) :
    t'.find path = .ok (some e) := by
  rw [find_eq_ok_iff] at hfound ⊢
  rw [placeOf, h.workingDirectory]
  exact ⟨hfound.1.keeps h, h.entry _ _ hfound.2⟩

theorem read_eq_ok_iff : t.read path = .ok content ↔
    t.find path = .ok (some (.file content)) ∧ t.refusal? .read (t.placeOf path) = none := by
  rw [FileTree.read]
  cases t.find path with
  | error e => simp
  | ok found =>
      cases found with
      | none => simp
      | some e =>
          cases t.refusal? .read (t.placeOf path) with
          | some n => simp
          | none => cases e <;> simp

/-- A file that can be read can still be read. -/
theorem Keeps.read (h : t.Keeps t') (hread : t.read path = .ok content) :
    t'.read path = .ok content := by
  rw [read_eq_ok_iff] at hread ⊢
  refine ⟨h.find hread.1, ?_⟩
  rw [placeOf, h.workingDirectory]
  exact (refusal?_congr h.refusals _ _).trans hread.2

/-- A file that is put in place changes nothing for a file that lies elsewhere. -/
theorem read_put_of_ne (hplace : t.entry? place ≠ some .directory) (new : Entry)
    (hne : t.placeOf path ≠ place) (hread : t.read path = .ok content) :
    (t.put place new).read path = .ok content := by
  rw [read_eq_ok_iff, find_eq_ok_iff] at hread ⊢
  rcases hread with ⟨⟨hpath, hend⟩, hleave⟩
  refine ⟨⟨⟨hpath.sound, hpath.short, hpath.way.put hplace new⟩, ?_⟩,
    (refusal?_congr rfl _ _).trans hleave⟩
  rw [lookup_put hplace]
  exact (if_neg hne).trans hend

@[simp] theorem placeOf_put (t : FileTree) (place : List Text) (e : Entry) (path : Text) :
    (t.put place e).placeOf path = t.placeOf path := rfl

theorem putIn_eq_ok {changed : List Text} (h : t.putIn changed path e = .ok t') :
    t' = t.put (t.placeOf path) e := by
  rw [putIn] at h
  cases hrefusal : t.refusal? .write changed with
  | some n =>
      rw [hrefusal] at h
      injection h
  | none =>
      rw [hrefusal] at h
      injection h with h
      exact h.symm

/-- A file is written where there was a file or nothing. -/
theorem write_eq_ok (h : t.write path content = .ok t') :
    t.Passes path ∧ t.entry? (t.placeOf path) ≠ some .directory ∧
      t' = t.put (t.placeOf path) (.file content) := by
  rw [write, change] at h
  cases hfind : t.find path with
  | error e =>
      rw [hfind] at h
      injection h
  | ok found =>
      rw [hfind] at h
      rcases find_eq_ok_iff.mp hfind with ⟨hway, hend⟩
      cases found with
      | none => exact ⟨hway, by rw [hend]; exact nofun, putIn_eq_ok h⟩
      | some e =>
          cases e with
          | directory => injection h
          | file old => exact ⟨hway, by rw [hend]; exact nofun, putIn_eq_ok h⟩

/-- If what has been written can be read, it is read as it has been written. -/
theorem read_of_write {content' : Bytes} (h : t.write path content = .ok t')
    (hread : t'.read path = .ok content') : content' = content := by
  rcases write_eq_ok h with ⟨-, hfree, rfl⟩
  have hend := (find_eq_ok_iff.mp (read_eq_ok_iff.mp hread).1).2
  rw [lookup_put hfree, placeOf_put, if_pos rfl] at hend
  injection hend with hend
  injection hend with hend
  exact hend.symm

/-! ### Making directories -/

theorem makeOne_extends (h : t.makeOne path = .ok t') : t.Extends t' := by
  rw [makeOne] at h
  cases hfind : t.find path with
  | error e =>
      rw [hfind] at h
      injection h
  | ok found =>
      rw [hfind] at h
      cases found with
      | some e => injection h
      | none => exact putIn_eq_ok h ▸ extends_put (find_eq_ok_iff.mp hfind).2

theorem ensureOne_extends (h : t.ensureOne path = .ok t') : t.Extends t' := by
  rw [ensureOne] at h
  cases hmake : t.makeOne path with
  | ok made =>
      rw [hmake] at h
      injection h with h
      exact h ▸ makeOne_extends hmake
  | error e =>
      rw [hmake] at h
      cases e with
      | path f => injection h
      | system e =>
          dsimp only at h
          split at h
          · injection h with h
            exact h ▸ Extends.refl t
          · injection h
          · injection h

theorem leftBy_ensureOne_extends (t : FileTree) (path : Text) :
    t.Extends (leftBy ((t.ensureOne path).mapError fun e => (e, t))) := by
  cases hensure : t.ensureOne path with
  | error e => exact Extends.refl t
  | ok made => exact ensureOne_extends hensure

theorem ensure_extends (t : FileTree) (path : Text) (above : List Text) :
    t.Extends (leftBy (t.ensure path above)) := by
  -- On the directories above, of which the nearest is made in the same way.
  induction above generalizing path with
  | nil => exact leftBy_ensureOne_extends t path
  | cons directory above ih =>
      rw [ensure]
      cases hmake : t.makeOne path with
      | ok made => exact makeOne_extends hmake
      | error e =>
          dsimp only
          split
          · have habove := ih directory
            cases hensure : t.ensure directory above with
            | error e => rwa [hensure] at habove
            | ok made =>
                rw [hensure] at habove
                exact habove.trans (leftBy_ensureOne_extends made path)
          · exact leftBy_ensureOne_extends t path

/-- Making a directory adds directories, even if it fails in the end. -/
theorem makeDirectory_extends (t : FileTree) (path : Text) :
    t.Extends (leftBy (t.makeDirectory path)) :=
  ensure_extends t path (Path.above path)

end

/-! ### Places that can be reached -/

theorem reached_start (t : FileTree) (path : Text) :
    t.Reached (Path.start t.workingDirectory path) := by
  intro p habove hne
  rw [Path.start] at habove hne
  split at habove
  · rename_i hroot
    rw [if_pos hroot] at hne
    exact absurd (List.prefix_nil.mp habove) hne
  · exact lookup_above habove

/-- From a directory with nothing but directories above it, one step leads to such a place
    again. -/
theorem Reached.step (h : t.Reached place) (hdirectory : t.entry? place = some .directory)
    (name : Text) : t.Reached (Path.step place name) := by
  intro p habove hne
  rw [Path.step] at habove hne
  split at habove
  · rename_i hup
    rw [if_pos hup] at hne
    -- The place above is itself above the place.
    refine h p (habove.trans (List.dropLast_prefix place)) fun hp => hne ?_
    exact habove.eq_of_length_le (by rw [hp, List.length_dropLast]; omega)
  · rename_i hup
    rw [if_neg hup] at hne
    split at habove
    · rename_i hdot
      rw [if_pos hdot] at hne
      exact h p habove hne
    · rename_i hdot
      rw [if_neg hdot] at hne
      rcases List.prefix_concat_iff.mp habove with hp | hp
      · exact absurd hp hne
      · by_cases hself : p = place
        · rw [hself, hdirectory]
        · exact h p hp hself

theorem Reached.passable (h : t.Reached place) (hway : t.Passable place names) :
    t.Reached (names.foldl Path.step place) := by
  induction names generalizing place with
  | nil => exact h
  | cons name rest ih => exact ih (h.step hway.1 name) hway.2.2

/-- To a place that can be reached there is a way along names that never go up, if these can be
    looked for. That has to be known from elsewhere: here from a tree with more directories. -/
theorem Reached.passable_of_notMem (h : t.Reached (place ++ names))
    (hup : Text.ofString ".." ∉ names) (hdot : Text.ofString "." ∉ names)
    (hsame : t'.refusals = t.refusals) (hway : t'.Passable place names) :
    t.Passable place names := by
  induction names generalizing place with
  | nil => exact True.intro
  | cons name rest ih =>
      rw [List.mem_cons, not_or] at hup hdot
      have habove : place ≠ place ++ name :: rest := by
        intro hsame
        have hlength := congrArg List.length hsame
        rw [List.length_append, List.length_cons] at hlength
        omega
      refine ⟨h place (List.prefix_append _ _) habove,
        (barrier?_congr hsame _ _).symm.trans hway.2.1, ?_⟩
      -- The name joins the place, and what is to be reached stays the same.
      have hstep := Path.step_of_ne (Ne.symm hup.1) (Ne.symm hdot.1) place
      rw [hstep]
      rw [List.append_cons] at h
      exact ih h hup.2 hdot.2 (hstep ▸ hway.2.2)

/-- If there would be a way with more directories, there is one for a path that never goes up and
    whose place can be reached. -/
theorem Reached.passes {path : Text} (h : t.Reached (t.placeOf path)) (hclimbs : ¬ Path.Climbs path)
    (hmade : t.Extends t') (hpath : t'.Passes path) : t.Passes path := by
  refine ⟨hpath.sound, hpath.short, ?_⟩
  have hway := hpath.way
  rw [hmade.workingDirectory] at hway
  rw [placeOf, Path.resolve] at h
  rcases Path.names_cases t.workingDirectory path with hnames | ⟨hnames, hstart⟩
  · rw [hnames] at h hway ⊢
    have hdot := Path.dot_notMem_parts path
    rw [Path.foldl_step_of_notMem hclimbs hdot] at h
    exact h.passable_of_notMem hclimbs hdot hmade.refusals hway
  · -- The only place on the way is the working directory.
    rw [hnames, hstart] at hway ⊢
    exact ⟨lookup_above List.prefix_rfl, (barrier?_congr hmade.refusals _ _).symm.trans hway.2.1,
      True.intro⟩

/-- Where a path never goes up and there would be a way if more directories were there, it leads to
    nothing only if no path leads to the place to which it would go. -/
theorem placeOf_ne_of_missing {path other : Text} (hmade : t.Extends t') (hpath : t'.Passes path)
    (hmissing : t.holds path = .ok false) (hclimbs : ¬ Path.Climbs path)
    (hother : t.find other = .ok (some e)) : t.placeOf other ≠ t.placeOf path := by
  intro hsame
  rcases find_eq_ok_iff.mp hother with ⟨hway, hend⟩
  -- If another path leads there, the directories above the place are there.
  have hreached : t.Reached (t.placeOf path) := hsame ▸ (reached_start t other).passable hway.way
  have hfound : t.find path = .ok (some e) :=
    find_eq_ok_iff.mpr ⟨hreached.passes hclimbs hmade hpath, hsame ▸ hend⟩
  rw [holds, asks, hfound] at hmissing
  injection hmissing with hmissing
  injection hmissing

end

end FileTree

end MockHost
