import MockHost.Proofs.Configuration.Files
import MockHost.Proofs.Configuration.Ports
import MockHost.Proofs.Configuration.Queries

/-!
# One Document until It Is Read Again

A configuration is asked for this and that, and in between its file is changed, deleted, made again
or replaced by something else. Once a document has been read, every query is answered from it, so
that the answers agree with one another whatever happens to the file, until the document is to be
read again. If it cannot be read, nothing is kept, not even what had been read before, and the next
query finds the file as it is by then.

What a query does to the files follows from the same distinction. As long as there is a document
they are left alone. Otherwise the usual document is put in place if there is nothing, and nothing
else that is there may change. That is not quite so: whether there is anything is looked up before
the directory of the file is made, and a path that goes up again from a directory that is not there
leads to nothing at first and to a file of somebody else afterwards.

## Main definitions

* `Configuration.Event`, `Configuration.after`, `Configuration.afterAll`: What happens to a
  configuration.
* `Configuration.Laid`: The usual document has been put in place.
* `Configuration.Spares`: What a query may do to the files.
* `Configuration.Answers`, `Configuration.Blank`: A configuration that has a document, and one that
  has none.

## Theorems

* `Configuration.ask_kept`, `Configuration.ask_unread`: One query.
* `Configuration.lay_cases`, `Configuration.ask_spares`: The files when the document is read.
* `Configuration.after_document`, `Configuration.afterAll_document`: A document stands.
* `Configuration.afterAll_stands`: Any history.
* `Configuration.afterAll_overwrites`: A file is replaced that is not the file of the configuration.
-/

namespace MockHost

namespace Configuration

/-! ### What happens to a configuration -/

/-- What happens to a configuration. -/
inductive Event where
  | ask (q : Query)
  /-- Somebody else changes the files, in whatever way. -/
  | change (files : FileTree)

/-- The configuration after something has happened. -/
def after (c : Configuration) : Event → Configuration
  | .ask q => ((answer q).runFrom c).2
  | .change files => { c with files := files }

/-- The configuration after one thing and another. -/
def afterAll (c : Configuration) : List Event → Configuration
  | [] => c
  | e :: rest => (c.after e).afterAll rest

section

variable {c c' : Configuration} {d : Document} {q : Query}

/-- With a document, the query works with it and changes nothing. -/
theorem ask_kept (h : (c.before q).document = some d) :
    c.consulted q = .ok d ∧ ∃ t, c.after (.ask q) = { c.before q with trace := t } := by
  rcases answer_runFrom c q with ⟨t, hrun⟩
  rw [load_runFrom h] at hrun
  exact ⟨by rw [consulted, load_runFrom h], t, by rw [after, hrun]⟩

/-- Without one, it reads the document and keeps it. -/
theorem ask_unread (h : (c.before q).document = none) :
    c.consulted q = (c.before q).consult.1 ∧ ∃ t, c.after (.ask q) =
      { c.before q with
        files := (c.before q).consult.2
        document := (c.before q).consult.1.toOption
        trace := t } := by
  rcases answer_runFrom c q with ⟨t, hrun⟩
  rcases load_unread h with ⟨t', hload⟩
  rw [hload] at hrun
  exact ⟨by rw [consulted, hload], t, by rw [after, hrun]⟩

/-! ### The files -/

/-- The file holds the usual document. -/
def Laid (c : Configuration) : Prop :=
  ∃ d, Document.usual c.defaultPort = .ok d ∧
    c.files.read c.path = .ok (Utf8.encode (d.toValue.pretty 0))

/-- What a query may do to the files. -/
structure Spares (c c' : Configuration) : Prop where
  /-- A file that is there stays as it is, unless the path of the configuration goes up again and
      would lead there. -/
  kept : ∀ p content, c.files.read p = .ok content → c'.files.read p = .ok content ∨
    c.Wanting ∧ c.files.placeOf p = c.files.placeOf c.path ∧ Path.Climbs c.path
  /-- Nothing is new but directories and the usual document. -/
  made : ∀ place, c'.files.entry? place = c.files.entry? place ∨
    c.Wanting ∧ ((place = c.files.placeOf c.path ∧ ∃ d, Document.usual c.defaultPort = .ok d ∧
        c'.files.entry? place = some (.file (Utf8.encode (d.toValue.pretty 0)))) ∨
      c.files.entry? place = none ∧ c'.files.entry? place = some .directory)

theorem Spares.of_same (h : c'.files = c.files) : c.Spares c' :=
  ⟨fun p content hread => .inl (h ▸ hread), fun place => .inl (by rw [h])⟩

theorem Spares.of_extends (h : c.files.Extends c'.files) (hwanting : c.Wanting) : c.Spares c' := by
  refine ⟨fun p content hread => .inl ?_, fun place => ?_⟩
  · exact h.keeps.read hread
  · exact (h.entry place).imp_right fun hnew => ⟨hwanting, .inr hnew⟩

/-- The usual document takes the place of another file only if that is where the path leads once
    its directory has been made, and then it goes up. -/
theorem Spares.of_write {made : FileTree} (hmade : c.files.Extends made) (hwanting : c.Wanting)
    (husual : Document.usual c.defaultPort = .ok d)
    (hwrite : made.write c.path (Utf8.encode (d.toValue.pretty 0)) = .ok c'.files) :
    c.Spares c' := by
  rcases FileTree.write_eq_ok hwrite with ⟨hpath, hfree, hput⟩
  rw [hmade.placeOf] at hfree hput
  refine ⟨fun p content hread => ?_, fun place => ?_⟩
  · by_cases hsame : c.files.placeOf p = c.files.placeOf c.path
    · -- Nothing was there when it was looked up, so that the path must have gone up.
      refine .inr ⟨hwanting, hsame, ?_⟩
      by_contra hclimbs
      have hfound := (FileTree.read_eq_ok_iff.mp hread).1
      exact FileTree.placeOf_ne_of_missing hmade hpath hwanting.missing hclimbs hfound hsame
    · rw [← hmade.placeOf p] at hsame
      rw [hput]
      exact .inl (FileTree.read_put_of_ne hfree _ hsame (hmade.keeps.read hread))
  · -- At any other place nothing is new but what has been made before the file is put in place.
    rw [hput, FileTree.lookup_put hfree]
    by_cases hsame : place = c.files.placeOf c.path
    · rw [if_pos hsame]
      exact .inr ⟨hwanting, .inl ⟨hsame, d, husual, rfl⟩⟩
    · rw [if_neg hsame]
      exact (hmade.entry place).imp_right fun hnew => ⟨hwanting, .inr hnew⟩

/-- Putting the usual document in place fails, with no more than directories made, or the document
    is written among these. -/
theorem lay_cases (c : Configuration) :
    (∃ f, c.lay.1 = .error f) ∧ c.files.Extends c.lay.2 ∨
      ∃ made d, c.files.Extends made ∧ Document.usual c.defaultPort = .ok d ∧
        made.write c.path (Utf8.encode (d.toValue.pretty 0)) = .ok c.lay.2 := by
  have hextends := FileTree.makeDirectory_extends c.files (Path.parent c.path)
  rw [lay]
  cases hmake : c.files.makeDirectory (Path.parent c.path) with
  | error e =>
      rw [hmake] at hextends
      exact .inl ⟨⟨_, rfl⟩, hextends⟩
  | ok made =>
      rw [hmake] at hextends
      dsimp only
      cases husual : Document.usual c.defaultPort with
      | error e => exact .inl ⟨⟨_, rfl⟩, hextends⟩
      | ok d =>
          dsimp only
          cases hwrite : made.write c.path (Utf8.encode (d.toValue.pretty 0)) with
          | error e => exact .inl ⟨⟨_, rfl⟩, hextends⟩
          | ok files => exact .inr ⟨made, d, hextends, rfl, hwrite⟩

theorem lay_spares (hwanting : c.Wanting) (hfiles : c'.files = c.lay.2) : c.Spares c' := by
  rcases lay_cases c with ⟨-, hextends⟩ | ⟨made, d, hmade, husual, hwrite⟩
  · exact Spares.of_extends (hfiles ▸ hextends) hwanting
  · exact Spares.of_write hmade hwanting husual (hfiles ▸ hwrite)

/-- Reading the document while none is kept. -/
theorem consult_spares (hunread : c.document = none) (hfiles : c'.files = c.consult.2) :
    c.Spares c' := by
  cases hholds : c.files.holds c.path with
  | error e => exact Spares.of_same (by rw [hfiles, consult_unheld hholds])
  | ok held =>
      cases held with
      | true => exact Spares.of_same (by rw [hfiles, consult_held hholds])
      | false =>
          cases hinitialise : c.initialise with
          | false => exact Spares.of_same (by rw [hfiles, consult_absent hholds hinitialise])
          | true =>
              -- Only here are the files touched, with nothing where the document should be.
              have hwanting : c.Wanting := ⟨hunread, hholds, hinitialise⟩
              refine lay_spares hwanting ?_
              rw [hfiles, consult_wanting hwanting]

/-- What has been read is what the file holds afterwards. -/
theorem readDocument_of_consult (hunread : c.document = none) (h : c.consult.1 = .ok d) :
    { c with files := c.consult.2 }.readDocument = .ok d := by
  cases hholds : c.files.holds c.path with
  | error e =>
      rw [consult_unheld hholds] at h
      injection h
  | ok held =>
      cases held with
      | true =>
          rw [consult_held hholds] at h ⊢
          exact h
      | false =>
          cases hinitialise : c.initialise with
          | false =>
              rw [consult_absent hholds hinitialise] at h
              injection h
          | true =>
              rw [consult_wanting ⟨hunread, hholds, hinitialise⟩] at h ⊢
              cases hlay : c.lay.1 with
              | error f =>
                  rw [hlay] at h
                  injection h
              | ok done =>
                  -- The document is not the one that was to be written but what the file holds then.
                  rw [hlay] at h
                  exact h

/-- A document that has been read was in the file. -/
theorem read_of_readDocument (h : c.readDocument = .ok d) :
    ∃ content, c.files.read c.path = .ok content := by
  rw [readDocument, readText] at h
  cases hread : c.files.read c.path with
  | error e =>
      rw [hread] at h
      injection h
  | ok content => exact ⟨content, rfl⟩

theorem laid_of_consult (hwanting : c.Wanting) (h : c.consult.1 = .ok d) :
    { c with files := c.consult.2 }.Laid := by
  have hstored := readDocument_of_consult hwanting.unread h
  rw [consult_wanting hwanting] at h hstored ⊢
  rcases lay_cases c with ⟨⟨f, hlay⟩, -⟩ | ⟨made, u, -, husual, hwrite⟩
  · -- What has not been put in place is not read.
    rw [hlay] at h
    injection h
  · -- The file can be read, so that it is read as it has been written.
    rcases read_of_readDocument hstored with ⟨content, hread⟩
    exact ⟨u, husual, FileTree.read_of_write hwrite hread ▸ hread⟩

/-- A query spares the files, whether it reads the document or not. -/
theorem ask_spares (c : Configuration) (q : Query) : (c.before q).Spares (c.after (.ask q)) := by
  cases hdocument : (c.before q).document with
  | some d =>
      rcases (ask_kept hdocument).2 with ⟨t, hafter⟩
      exact Spares.of_same (by rw [hafter])
  | none =>
      rcases (ask_unread hdocument).2 with ⟨t, hafter⟩
      exact consult_spares hdocument (by rw [hafter])

/-! ### A document that is kept, and none -/

/-- Every query that does not read the document again is answered from one document, and leaves the
    files alone. -/
structure Answers (c : Configuration) (d : Document) : Prop where
  reply : ∀ q, q ≠ .reload → c.reply q = d.answerTo q
  files : ∀ q, q ≠ .reload → (c.after (.ask q)).files = c.files

/-- A configuration that has just been made, for the same file and with the files as they are. -/
def renewed (c : Configuration) : Configuration where
  path := c.path
  initialise := c.initialise
  defaultPort := c.defaultPort
  files := c.files

/-- Every query is answered as by a configuration that has just been made, and does the same to the
    files. If there is a file, the document is what it holds. -/
structure Blank (c : Configuration) : Prop where
  reply : ∀ q, c.reply q = c.renewed.reply q
  files : ∀ q, (c.after (.ask q)).files = (c.renewed.after (.ask q)).files
  stored : c.files.holds c.path = .ok true → ∀ q, c.consulted q = c.readDocument

theorem before_of_ne (c : Configuration) (hq : q ≠ .reload) : c.before q = c := by
  cases q with
  | reload => exact absurd rfl hq
  | _ => rfl

theorem answers_of_document (h : c.document = some d) : c.Answers d := by
  refine ⟨fun q hq => ?_, fun q hq => ?_⟩ <;> rw [← before_of_ne c hq] at h
  · rw [reply_eq, (ask_kept h).1]
    rfl
  · rcases (ask_kept h).2 with ⟨t, hafter⟩
    rw [hafter, before_of_ne c hq]

/-- Where no document is kept there is nothing for a reload to forget. -/
theorem before_unread (h : c.document = none) (q : Query) : c.before q = c := by
  cases q with
  | reload => exact unread_eq h
  | _ => rfl

theorem ask_of_unread (h : c.document = none) (q : Query) :
    c.consulted q = c.consult.1 ∧ (c.after (.ask q)).files = c.consult.2 := by
  have hbefore := before_unread h q
  rcases ask_unread (hbefore ▸ h) with ⟨hconsulted, t, hafter⟩
  rw [hconsulted, hafter, hbefore]
  exact ⟨rfl, rfl⟩

/-- Both are for the same file with the same files around it, so that reading it comes to the
    same. -/
theorem blank_of_unread (h : c.document = none) : c.Blank := by
  have hconsult : c.renewed.consult = c.consult := rfl
  have hask := ask_of_unread h
  have hrenewed := ask_of_unread (c := c.renewed) rfl
  refine ⟨fun q => ?_, fun q => ?_, fun hholds q => ?_⟩
  · rw [reply_eq, reply_eq, (hask q).1, (hrenewed q).1, hconsult]
  · rw [(hask q).2, (hrenewed q).2, hconsult]
  · rw [(hask q).1, consult_held hholds]

/-! ### Any history -/

/-- Both have been made for the same file and in the same way. -/
structure Same (c c' : Configuration) : Prop where
  path : c'.path = c.path
  initialise : c'.initialise = c.initialise
  defaultPort : c'.defaultPort = c.defaultPort

theorem Same.refl (c : Configuration) : c.Same c := ⟨rfl, rfl, rfl⟩

theorem Same.trans {c'' : Configuration} (h : c.Same c') (h' : c'.Same c'') : c.Same c'' where
  path := h'.path.trans h.path
  initialise := h'.initialise.trans h.initialise
  defaultPort := h'.defaultPort.trans h.defaultPort

theorem before_same (c : Configuration) (q : Query) : c.Same (c.before q) := by
  cases q <;> exact ⟨rfl, rfl, rfl⟩

theorem after_same (c : Configuration) (e : Event) : c.Same (c.after e) := by
  cases e with
  | change files => exact ⟨rfl, rfl, rfl⟩
  | ask q =>
      refine (before_same c q).trans ?_
      cases hdocument : (c.before q).document with
      | some d =>
          rcases (ask_kept hdocument).2 with ⟨t, hafter⟩
          rw [hafter]
          exact ⟨rfl, rfl, rfl⟩
      | none =>
          rcases (ask_unread hdocument).2 with ⟨t, hafter⟩
          rw [hafter]
          exact ⟨rfl, rfl, rfl⟩

theorem afterAll_same (c : Configuration) (es : List Event) : c.Same (c.afterAll es) := by
  induction es generalizing c with
  | nil => exact Same.refl c
  | cons e rest ih => exact (after_same c e).trans (ih _)

/-- What a query works with is kept, and if there is nothing to work with, nothing is kept. -/
theorem after_ask_document (c : Configuration) (q : Query) :
    (c.after (.ask q)).document = (c.consulted q).toOption := by
  cases hdocument : (c.before q).document with
  | some d =>
      rcases ask_kept hdocument with ⟨hconsulted, t, hafter⟩
      rw [hafter, hconsulted]
      exact hdocument
  | none =>
      rcases ask_unread hdocument with ⟨hconsulted, t, hafter⟩
      rw [hafter, hconsulted]

/-- A document that is kept is kept on, whatever happens, unless it is to be read again. -/
theorem after_document (h : c.document = some d) {e : Event} (he : e ≠ .ask .reload) :
    (c.after e).document = some d := by
  cases e with
  | change files => exact h
  | ask q =>
      have hq : q ≠ .reload := fun hq => he (hq ▸ rfl)
      rw [← before_of_ne c hq] at h
      rw [after_ask_document, (ask_kept h).1]
      rfl

theorem afterAll_document (h : c.document = some d) {es : List Event}
    (hes : ∀ e ∈ es, e ≠ .ask .reload) : (c.afterAll es).document = some d := by
  -- On what is left to happen. The document is the same at every point of it.
  induction es generalizing c with
  | nil => exact h
  | cons e rest ih =>
      exact ih (after_document h (hes e List.mem_cons_self))
        fun e' he' => hes e' (List.mem_cons_of_mem _ he')

/-- As long as only the files change, nothing is read. -/
theorem afterAll_unread (h : c.document = none) {es : List Event}
    (hes : ∀ e ∈ es, ∃ files, e = .change files) : (c.afterAll es).document = none := by
  induction es generalizing c with
  | nil => exact h
  | cons e rest ih =>
      rcases hes e List.mem_cons_self with ⟨files, rfl⟩
      exact ih (c := c.after (.change files)) h fun e' he' => hes e' (List.mem_cons_of_mem _ he')

/-- What has been read while no document was kept is what the file holds afterwards. -/
theorem stored_after (h : (c.before q).document = none) (hconsulted : c.consulted q = .ok d) :
    (c.after (.ask q)).readDocument = .ok d := by
  rcases ask_unread h with ⟨hconsult, t, hafter⟩
  rw [hconsult] at hconsulted
  rw [hafter]
  exact readDocument_of_consult h hconsulted

/-- Where the usual document is wanted and a document is found, the usual one is in the file. -/
theorem laid_after (h : (c.before q).Wanting) (hconsulted : c.consulted q = .ok d) :
    (c.after (.ask q)).Laid := by
  rcases ask_unread h.unread with ⟨hconsult, t, hafter⟩
  rw [hconsult] at hconsulted
  rw [hafter]
  exact laid_of_consult h hconsulted

end

/-- Any history of a configuration, up to a query and on from there. If the query finds a document,
    it is answered from it, and so is every query until the document is to be read again, whatever
    happens to the files in between; if it had to be read, it is what the file holds, which is the
    usual document if that was wanted. If there is none, nothing is kept, and when the files have
    changed the next query is answered as if it were the first. To the files a query does nothing
    but put the usual document in place where it is wanted, and no file that is there changes unless
    the path of the configuration goes up again. -/
theorem afterAll_stands (c : Configuration) (es : List Event) (q : Query) :
    let c₁ := c.afterAll es
    let c₂ := c₁.after (.ask q)
    c.Same c₂ ∧
    (∀ d, c₁.consulted q = .ok d →
      c₁.reply q = d.answerTo q ∧
      ((c₁.before q).document = none → c₂.readDocument = .ok d) ∧
      ((c₁.before q).Wanting → c₂.Laid) ∧
      ∀ later, (∀ e ∈ later, e ≠ .ask .reload) → (c₂.afterAll later).Answers d) ∧
    (∀ f, c₁.consulted q = .error f →
      c₁.reply q = .error f ∧
      ∀ later, (∀ e ∈ later, ∃ files, e = .change files) → (c₂.afterAll later).Blank) ∧
    (c₁.before q).Spares c₂ := by
  intro c₁ c₂
  -- All that counts later on is whether the query leaves a document.
  have hkept : c₂.document = (c₁.consulted q).toOption := after_ask_document c₁ q
  refine ⟨(afterAll_same c es).trans (after_same c₁ (.ask q)), fun d hd => ?_, fun f hf => ?_,
    ask_spares c₁ q⟩
  · have hreply : c₁.reply q = d.answerTo q := by
      rw [reply_eq, hd]
      rfl
    refine ⟨hreply, fun hunread => stored_after hunread hd, fun hwanting => laid_after hwanting hd,
      fun later hlater => ?_⟩
    rw [hd] at hkept
    exact answers_of_document (afterAll_document hkept hlater)
  · have hreply : c₁.reply q = .error f := by
      rw [reply_eq, hf]
      rfl
    refine ⟨hreply, fun later hlater => ?_⟩
    rw [hf] at hkept
    exact blank_of_unread (afterAll_unread hkept hlater)

/-- A document is read, and the file is replaced by one that holds none. The ports are still those
    of the document, until it is to be read again. -/
theorem afterAll_stands_replaced :
    let files (text : String) : FileTree :=
      ⟨[], [([Text.ofString "c.json"], .file (Utf8.encode text))], []⟩
    let c : Configuration :=
      { path := "c.json", initialise := false, defaultPort := 6789
        files := files "\x7b\"servers\":[\x7b\"port\":1111\x7d]\x7d" }
    let c' := (c.after (.ask .load)).afterAll [.change (files "\x7b"), .ask (.serversOn 1111)]
    c.consulted .load = .ok ⟨[⟨1111, []⟩]⟩ ∧ c'.reply .ports = .ok (.ports [1111]) ∧
      (∃ f, c'.consulted .reload = .error f) ∧
      ((c'.after (.ask .reload)).afterAll [.change (files "\x7b\x7d")]).Blank := by
  intro files c c'
  have hload : c.consulted .load = .ok ⟨[⟨1111, []⟩]⟩ := by rfl
  have hreload : ∃ f, c'.consulted .reload = .error f := ⟨_, by rfl⟩
  refine ⟨hload, ?_, hreload, ?_⟩
  · have hanswers := ((afterAll_stands c [] .load).2.1 _ hload).2.2.2
      [.change (files "\x7b"), .ask (.serversOn 1111)] (by simp)
    have hports : Document.ports ⟨[⟨1111, []⟩]⟩ = [1111] := by decide +kernel
    rw [← hports]
    exact hanswers.reply .ports nofun
  · rcases hreload with ⟨f, hf⟩
    exact ((afterAll_stands c' [] .reload).2.2.1 f hf).2 _ (by simp)

/-- The directory that the path goes up from is not there, so that nothing seems to be there, and
    the document of somebody else is replaced by the usual one. -/
theorem afterAll_overwrites :
    let content : Bytes := Utf8.encode "\x7b\x7d"
    let c : Configuration :=
      { path := "new/../c.json", initialise := true, defaultPort := 6789
        files := ⟨[], [([Text.ofString "c.json"], .file content)], []⟩ }
    (c.files.read "c.json").toOption = some content ∧
      ((c.afterAll [.ask .load]).files.read "c.json").toOption ≠ some content := by
  decide +kernel

end Configuration

end MockHost
