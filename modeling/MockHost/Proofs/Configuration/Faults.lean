import MockHost.Configuration
import MockHost.Proofs.Configuration.Files
import MockHost.Proofs.Configuration.Paths

/-!
# How Queries of a Configuration Fail

Whatever is wrong with a configuration file or with the place where it should be, a
query reports a faulty configuration: the file is not there, cannot be read, is not
UTF-8 or no document, or the usual configuration cannot be put in its place. That is
meant to be the only way in which a query fails, but there are more.

Before anything is read it is asked whether there is a file, and the system may refuse
to say: a name is too long, or a directory on the way may not be searched. A text that
is not a path counts as a file that is missing, and fails as such only when the usual
configuration is to be written to it. The usual configuration listens on a port that the
settings give, and is itself refused if that is no port that a document may name. And the
payload of a response is read as a text with escapes only when the registry of a port is
asked for, long after the document has been accepted, and the first escape that cannot be
read ends the query.

All of these ways are described exactly: by what the configuration is when it begins to
read its document, and by what the document holds for the port.

## Main definitions

* `Configuration.Query`, `Configuration.fault?`: What may be asked, and how that fails.
* `Failure.IsConfiguration`: The failure that a query is meant to end with.
* `Configuration.Wanting`, `Configuration.Initialises`: Reading the document comes to making the
  usual one.
* `Configuration.Unreported`: The other failures of reading the document, and their causes.

## Theorems

* `Document.usual_error_iff`: When the usual document is refused.
* `Configuration.load_unreported`, `Configuration.load_cases`: How reading the document ends.
* `Configuration.addResponses_cases`: How filling a registry ends.
* `Configuration.fault_faces`: The ways in which a query fails, and when each is taken.
* `Configuration.fault_unfaced`: All ways that are not meant to be taken are.
-/

namespace MockHost

/-- A faulty configuration is reported. -/
def Failure.IsConfiguration (f : Failure) : Prop :=
  ∃ r : ErrorReport, f = .reported r ∧ r.kind = .configuration

/-- The usual document is refused if its port is not one that a document may name. -/
theorem Document.usual_error_iff (port : Port) :
    (∃ e, Document.usual port = .error e) ↔ port < 1 ∨ 65535 < port := by
  have hcheck : Port.check (.int port) =
      if port < 1 then Checked.problem (.below 1)
      else if 65535 < port then Checked.problem (.above 65535) else .ok port := rfl
  rw [Document.usual, hcheck]
  by_cases hlow : port < 1
  · rw [if_pos hlow]
    exact ⟨fun _ => .inl hlow, fun _ => ⟨_, rfl⟩⟩
  · rw [if_neg hlow]
    by_cases hhigh : 65535 < port
    · rw [if_pos hhigh]
      exact ⟨fun _ => .inr hhigh, fun _ => ⟨_, rfl⟩⟩
    · rw [if_neg hhigh]
      refine ⟨?_, fun h => absurd h (not_or_intro hlow hhigh)⟩
      rintro ⟨e, he⟩
      injection he

namespace Configuration

/-- What may be asked of a configuration. -/
inductive Query where
  | load
  | reload
  | ports
  | serversOn (port : Port)
  | registry (port : Port)

/-- Asks for something, whatever the answer is. -/
def ask : Query → Act Configuration Unit
  | .load => do let _ ← load
  | .reload => do let _ ← reload
  | .ports => do let _ ← ports
  | .serversOn port => do let _ ← serversOn port
  | .registry port => do let _ ← registry port

/-- The failure that a query ends with, if it fails. -/
def fault? (c : Configuration) (q : Query) : Option Failure :=
  match ((ask q).runFrom c).1 with
  | .ok _ => none
  | .error f => some f

/-- The configuration that a query reads its document from. -/
def before (c : Configuration) : Query → Configuration
  | .reload => { c with document := none }
  | _ => c

/-- The document is read from the files, and where it should be there is nothing. The usual one may
    be put there. -/
structure Wanting (c : Configuration) : Prop where
  unread : c.document = none
  missing : c.files.holds c.path = .ok false
  initialise : c.initialise = true

/-- The usual document is to be put in place, and the directory for it is there or can be made. -/
structure Initialises (c : Configuration) : Prop extends Wanting c where
  directory : ∃ files, c.files.makeDirectory (Path.parent c.path) = .ok files

/-- The usual document has to be made, but its port is not one that a document may name. -/
structure Refuses (c : Configuration) : Prop extends Initialises c where
  port : c.defaultPort < 1 ∨ 65535 < c.defaultPort

/-- The failures with which reading the document ends without a report, each with its cause. -/
inductive Unreported (c : Configuration) : Failure → Prop where
  /-- The system does not say whether there is a file. -/
  | lookup {e : SystemError} : c.document = none → c.files.holds c.path = .error e →
      Unreported c (.system e)
  /-- The directory of the file has no path. -/
  | directory {f : Path.Fault} : c.Wanting → Path.fault? (Path.parent c.path) = some f →
      Unreported c (.path f)
  | usual {e : ValidationError} : c.Refuses → Document.usual c.defaultPort = .error e →
      Unreported c (.invalid e)
  /-- The file itself has no path. -/
  | file {f : Path.Fault} : c.Initialises → ¬ c.Refuses → Path.fault? c.path = some f →
      Unreported c (.path f)

/-! ### Reading the document -/

section

variable {c : Configuration}

theorem changeFiles_ok {f : FileTree → Except (FileError × FileTree) FileTree}
    {files : FileTree} (h : f c.files = .ok files) (report : Text → ErrorReport) :
    (changeFiles f report).runFrom c = (.ok (), { c with files := files }) := by
  rw [changeFiles, Act.runFrom_bind_ok (Act.runFrom_get c), h]
  rfl

theorem changeFiles_error {f : FileTree → Except (FileError × FileTree) FileTree}
    {e : FileError} {files : FileTree} (h : f c.files = .error (e, files))
    (report : Text → ErrorReport) :
    (changeFiles f report).runFrom c = (.error (e.reportedBy report), { c with files := files }) := by
  rw [changeFiles, Act.runFrom_bind_ok (Act.runFrom_get c), h]
  rfl

/-- The directory of the file is made before anything else. -/
theorem writeDefaults_undirected {e : FileError} {files : FileTree}
    (hmake : c.files.makeDirectory (Path.parent c.path) = .error (e, files)) :
    writeDefaults.runFrom c =
      (.error (e.reportedBy (unwritable c.path)), { c with files := files }) := by
  rw [writeDefaults, Act.runFrom_bind_ok (Act.runFrom_get c)]
  exact Act.runFrom_bind_error (changeFiles_error hmake _) _

/-- The usual document is made after its directory and before anything is written. -/
theorem writeDefaults_invalid {files : FileTree} {e : ValidationError}
    (hmake : c.files.makeDirectory (Path.parent c.path) = .ok files)
    (husual : Document.usual c.defaultPort = .error e) :
    writeDefaults.runFrom c = (.error (.invalid e), { c with files := files }) := by
  rw [writeDefaults, Act.runFrom_bind_ok (Act.runFrom_get c),
    Act.runFrom_bind_ok (changeFiles_ok hmake _), husual]
  rfl

/-- Then it is written. -/
theorem writeDefaults_unwritten {files : FileTree} {d : Document} {e : FileError}
    (hmake : c.files.makeDirectory (Path.parent c.path) = .ok files)
    (husual : Document.usual c.defaultPort = .ok d)
    (hwrite : files.write c.path (Utf8.encode (d.toValue.pretty 0)) = .error e) :
    writeDefaults.runFrom c =
      (.error (e.reportedBy (unwritable c.path)), { c with files := files }) := by
  have hchange : (files.write c.path (Utf8.encode (d.toValue.pretty 0))).mapError
      (fun e => (e, files)) = .error (e, files) := by rw [hwrite]; rfl
  rw [writeDefaults, Act.runFrom_bind_ok (Act.runFrom_get c),
    Act.runFrom_bind_ok (changeFiles_ok hmake _), husual]
  exact Act.runFrom_bind_error (changeFiles_error hchange _) _

theorem writeDefaults_written {files files' : FileTree} {d : Document}
    (hmake : c.files.makeDirectory (Path.parent c.path) = .ok files)
    (husual : Document.usual c.defaultPort = .ok d)
    (hwrite : files.write c.path (Utf8.encode (d.toValue.pretty 0)) = .ok files') :
    ∃ t, writeDefaults.runFrom c = (.ok c.path, { c with files := files', trace := t }) := by
  have hchange : (files.write c.path (Utf8.encode (d.toValue.pretty 0))).mapError
      (fun e => (e, files)) = .ok files' := by rw [hwrite]; rfl
  rw [writeDefaults, Act.runFrom_bind_ok (Act.runFrom_get c),
    Act.runFrom_bind_ok (changeFiles_ok hmake _), husual]
  dsimp only
  rw [Act.runFrom_bind_ok (changeFiles_ok hchange _)]
  exact ⟨_, rfl⟩

theorem isConfiguration_of_reportedBy {e : FileError} {report : Text → ErrorReport}
    (hreport : ∀ t, (report t).kind = .configuration) (he : ∀ f, e ≠ .path f) :
    (e.reportedBy report).IsConfiguration := by
  cases e with
  | path f => exact absurd rfl (he f)
  | system e => exact ⟨_, rfl, hreport _⟩

/-- Where the file cannot be read, or holds no document, a faulty configuration is reported. -/
theorem readDocument_faces (hpath : Path.fault? c.path = none) {f : Failure}
    (h : c.readDocument = .error f) : f.IsConfiguration := by
  rw [readDocument, readText] at h
  cases hread : c.files.read c.path with
  | error e =>
      rw [hread] at h
      injection h with h
      rw [← h]
      refine isConfiguration_of_reportedBy (fun _ => rfl) fun g hg => ?_
      rw [hg, FileTree.read_path_iff, hpath] at hread
      injection hread
  | ok content =>
      rw [hread] at h
      dsimp only at h
      cases hdecode : Utf8.decode? content with
      | error e =>
          rw [hdecode] at h
          injection h with h
          rw [← h]
          exact ⟨_, rfl, rfl⟩
      | ok t =>
          rw [hdecode] at h
          simp only [bind, Except.bind] at h
          split at h
          · injection h
          · injection h with h
            rw [← h]
            exact ⟨_, rfl, rfl⟩

theorem readIn_cases (hpath : Path.fault? c.path = none) :
    (∃ d c', readIn.runFrom c = (.ok d, c')) ∨
      ∃ f c', readIn.runFrom c = (.error f, c') ∧ f.IsConfiguration := by
  rw [readIn, Act.runFrom_bind_ok (Act.runFrom_get c)]
  cases hread : c.readDocument with
  | error f => exact .inr ⟨f, _, rfl, readDocument_faces hpath hread⟩
  | ok d => exact .inl ⟨d, _, rfl⟩

theorem load_unheld {e : SystemError} (hunread : c.document = none)
    (hholds : c.files.holds c.path = .error e) : load.runFrom c = (.error (.system e), c) := by
  rw [load, Act.runFrom_bind_ok (Act.runFrom_get c), hunread, hholds]
  rfl

theorem load_held (hunread : c.document = none) (hholds : c.files.holds c.path = .ok true) :
    load.runFrom c = readIn.runFrom c := by
  rw [load, Act.runFrom_bind_ok (Act.runFrom_get c), hunread, hholds]

theorem load_absent (hunread : c.document = none) (hholds : c.files.holds c.path = .ok false)
    (hinitialise : c.initialise = false) :
    load.runFrom c = (.error (.reported (notFound c.path)), c) := by
  rw [load, Act.runFrom_bind_ok (Act.runFrom_get c), hunread, hholds, hinitialise]
  rfl

theorem load_wanting (h : c.Wanting) :
    load.runFrom c = (do let _ ← writeDefaults; readIn : Act Configuration Document).runFrom c := by
  rw [load, Act.runFrom_bind_ok (Act.runFrom_get c), h.unread, h.missing, h.initialise]
  rfl

theorem load_of_writeDefaults_error (h : c.Wanting) {f : Failure} {c' : Configuration}
    (hwrite : writeDefaults.runFrom c = (.error f, c')) : load.runFrom c = (.error f, c') := by
  rw [load_wanting h]
  exact Act.runFrom_bind_error hwrite _

/-- Each failure without a report is what its cause leads to. -/
theorem load_unreported {f : Failure} (h : c.Unreported f) :
    ∃ c', load.runFrom c = (.error f, c') := by
  cases h with
  | lookup hunread hholds => exact ⟨c, load_unheld hunread hholds⟩
  | directory hwanting hfault =>
      rcases FileTree.makeDirectory_path_iff (t := c.files).mpr hfault with ⟨files, hmake⟩
      exact ⟨_, load_of_writeDefaults_error hwanting (writeDefaults_undirected hmake)⟩
  | usual hrefuses husual =>
      rcases hrefuses.directory with ⟨files, hmake⟩
      exact ⟨_, load_of_writeDefaults_error hrefuses.toWanting (writeDefaults_invalid hmake husual)⟩
  | file hinitialises hrefuses hfault =>
      rcases hinitialises.directory with ⟨files, hmake⟩
      cases husual : Document.usual c.defaultPort with
      | error e =>
          have hport := (Document.usual_error_iff _).mp ⟨e, husual⟩
          exact absurd ⟨hinitialises, hport⟩ hrefuses
      | ok d =>
          exact ⟨_, load_of_writeDefaults_error hinitialises.toWanting
            (writeDefaults_unwritten hmake husual (FileTree.write_path_iff.mpr hfault))⟩

/-- Putting the usual document in place leads to a document, or it fails. If that is not reported,
    it has one of the causes for this. -/
theorem load_wanting_cases (h : c.Wanting) :
    (∃ d c', load.runFrom c = (.ok d, c')) ∨
      ∃ f c', load.runFrom c = (.error f, c') ∧ (f.IsConfiguration ∨ c.Unreported f) := by
  have hfails : ∀ {f c'}, writeDefaults.runFrom c = (.error f, c') →
      (f.IsConfiguration ∨ c.Unreported f) → (∃ d c', load.runFrom c = (.ok d, c')) ∨
        ∃ f c', load.runFrom c = (.error f, c') ∧ (f.IsConfiguration ∨ c.Unreported f) :=
    fun hwrite hf => .inr ⟨_, _, load_of_writeDefaults_error h hwrite, hf⟩
  cases hmake : c.files.makeDirectory (Path.parent c.path) with
  | error e =>
      rcases e with ⟨e, files⟩
      refine hfails (writeDefaults_undirected hmake) ?_
      cases e with
      | system e => exact .inl ⟨_, rfl, rfl⟩
      | path f => exact .inr (.directory h (FileTree.makeDirectory_path_iff.mp ⟨files, hmake⟩))
  | ok files =>
      have hinitialises : c.Initialises := ⟨h, files, hmake⟩
      cases husual : Document.usual c.defaultPort with
      | error e =>
          have hport := (Document.usual_error_iff _).mp ⟨e, husual⟩
          exact hfails (writeDefaults_invalid hmake husual)
            (.inr (.usual ⟨hinitialises, hport⟩ husual))
      | ok d =>
          cases hwrite : files.write c.path (Utf8.encode (d.toValue.pretty 0)) with
          | error e =>
              refine hfails (writeDefaults_unwritten hmake husual hwrite) ?_
              cases e with
              | system e => exact .inl ⟨_, rfl, rfl⟩
              | path f =>
                  refine .inr (.file hinitialises (fun hrefuses => ?_)
                    (FileTree.write_path_iff.mp hwrite))
                  rcases (Document.usual_error_iff _).mpr hrefuses.port with ⟨e, husual'⟩
                  injection husual.symm.trans husual'
          | ok files' =>
              -- What has been written is read again, which may fail like any other reading.
              rcases writeDefaults_written hmake husual hwrite with ⟨t, hwritten⟩
              rw [load_wanting h, Act.runFrom_bind_ok hwritten]
              have hpath := (FileTree.write_eq_ok hwrite).1.sound
              rcases readIn_cases (c := { c with files := files', trace := t }) hpath with
                hok | ⟨f, c', hfail, hf⟩
              · exact .inl hok
              · exact .inr ⟨f, c', hfail, .inl hf⟩

/-- There is a document in the end, or a failure that is reported or has one of the other causes. -/
theorem load_cases (c : Configuration) :
    (∃ d c', load.runFrom c = (.ok d, c')) ∨
      ∃ f c', load.runFrom c = (.error f, c') ∧ (f.IsConfiguration ∨ c.Unreported f) := by
  cases hdocument : c.document with
  | some d =>
      refine .inl ⟨d, c, ?_⟩
      rw [load, Act.runFrom_bind_ok (Act.runFrom_get c), hdocument]
      rfl
  | none =>
      cases hholds : c.files.holds c.path with
      | error e =>
          exact .inr ⟨_, c, load_unheld hdocument hholds, .inr (.lookup hdocument hholds)⟩
      | ok held =>
          cases held with
          | true =>
              rw [load_held hdocument hholds]
              rcases readIn_cases (FileTree.passes_of_holds hholds).sound with
                hok | ⟨f, c', hfail, hf⟩
              · exact .inl hok
              · exact .inr ⟨f, c', hfail, .inl hf⟩
          | false =>
              cases hinitialise : c.initialise with
              | false =>
                  exact .inr ⟨_, c, load_absent hdocument hholds hinitialise, .inl ⟨_, rfl, rfl⟩⟩
              | true => exact load_wanting_cases ⟨hdocument, hholds, hinitialise⟩

/-! ### Filling a registry -/

/-- A registry that is being filled is not frozen, so what is added to it is not refused. -/
theorem addLogged_ok {r : Registry} (h : r.frozen = false) (key : Text) (d : Delivery) :
    ∃ r' logged, r.addLogged key d = .ok (r', logged) ∧ r'.frozen = false := by
  rw [Registry.addLogged, Registry.add, h]
  simp only [Bool.false_eq_true, if_false]
  split
  · exact ⟨r, _, rfl, h⟩
  · exact ⟨_, _, rfl, rfl⟩

/-- Filling a registry ends at the first payload with an escape that cannot be read. -/
theorem addResponses_cases (l : List (Text × ResponseDefinition)) {r : Registry}
    (h : r.frozen = false) (c : Configuration) :
    (∃ r' c', (addResponses r l).runFrom c = (.ok r', c') ∧
      ∀ x ∈ l, ∃ payload, Escape.unescape? x.2.message = .ok payload) ∨
    ∃ e c', (addResponses r l).runFrom c = (.error (.escape e), c') ∧
      ∃ x ∈ l, Escape.unescape? x.2.message = .error e := by
  -- What carries the induction is that the registry is not frozen on the way.
  induction l generalizing r c with
  | nil => exact .inl ⟨r, c, rfl, fun x hx => absurd hx List.not_mem_nil⟩
  | cons x rest ih =>
      rcases x with ⟨key, response⟩
      rw [addResponses]
      cases hpayload : Escape.unescape? response.message with
      | error e => exact .inr ⟨e, c, rfl, _, List.mem_cons_self, hpayload⟩
      | ok payload =>
          dsimp only
          rcases addLogged_ok h key ⟨response.host, response.port, payload⟩ with
            ⟨r', logged, hadd, hfrozen⟩
          rw [hadd]
          dsimp only
          rw [Act.runFrom_bind_ok (Act.runFrom_modify _ c)]
          rcases ih hfrozen { c with trace := c.trace ++ logged } with
            ⟨r'', c', hok, hall⟩ | ⟨e, c', hfail, y, hy, hescape⟩
          · refine .inl ⟨r'', c', hok, fun y hy => ?_⟩
            rcases List.mem_cons.mp hy with rfl | hy
            · exact ⟨payload, hpayload⟩
            · exact hall y hy
          · exact .inr ⟨e, c', hfail, y, List.mem_cons_of_mem _ hy, hescape⟩

end

/-! ### The three faces -/

/-- The payloads that a query has to read: those of a registry. -/
def payloads (d : Document) : Query → List Text
  | .registry port => (d.responsesOn port).map fun x => x.2.message
  | _ => []

section

variable {c c' : Configuration} {q : Query}

theorem fault?_of_error {f : Failure} (h : (ask q).runFrom c = (.error f, c')) :
    fault? c q = some f := by
  rw [fault?, h]

theorem fault?_of_ok (h : (ask q).runFrom c = (.ok (), c')) : fault? c q = none := by
  rw [fault?, h]

theorem reload_runFrom (c : Configuration) :
    reload.runFrom c = load.runFrom { c with document := none } :=
  Act.runFrom_bind_ok (Act.runFrom_modify _ c) _

/-- Every query reads the document first, and fails as this does. -/
theorem fault?_of_load_error {f : Failure} (h : load.runFrom (c.before q) = (.error f, c')) :
    fault? c q = some f := by
  have hask : (ask q).runFrom c = (.error f, c') := by
    cases q with
    | load => exact Act.runFrom_bind_error h _
    | reload => exact Act.runFrom_bind_error ((reload_runFrom c).trans h) _
    | ports => exact Act.runFrom_bind_error (Act.runFrom_bind_error h _) _
    | serversOn port => exact Act.runFrom_bind_error (Act.runFrom_bind_error h _) _
    | registry port => exact Act.runFrom_bind_error (Act.runFrom_bind_error h _) _
  exact fault?_of_error hask

/-- If there is a document, only a payload can make a query fail. -/
theorem fault?_of_load_ok {d : Document} (h : load.runFrom (c.before q) = (.ok d, c')) :
    (fault? c q = none ∧ ∀ t ∈ payloads d q, ∃ payload, Escape.unescape? t = .ok payload) ∨
      ∃ e, fault? c q = some (.escape e) ∧ ∃ t ∈ payloads d q, Escape.unescape? t = .error e := by
  have hnone : ∀ t ∈ ([] : List Text), ∃ payload, Escape.unescape? t = .ok payload :=
    fun t ht => absurd ht List.not_mem_nil
  cases q with
  | load => exact .inl ⟨fault?_of_ok (Act.runFrom_bind_ok h _), hnone⟩
  | reload =>
      exact .inl ⟨fault?_of_ok (Act.runFrom_bind_ok ((reload_runFrom c).trans h) _), hnone⟩
  | ports =>
      exact .inl ⟨fault?_of_ok (Act.runFrom_bind_ok (Act.runFrom_bind_ok h _) _), hnone⟩
  | serversOn port =>
      exact .inl ⟨fault?_of_ok (Act.runFrom_bind_ok (Act.runFrom_bind_ok h _) _), hnone⟩
  | registry port =>
      rcases addResponses_cases (d.responsesOn port) (r := {}) rfl c' with
        ⟨r, c'', hok, hall⟩ | ⟨e, c'', hfail, x, hx, hescape⟩
      · have hregistry : (registry port).runFrom c = (.ok r, c'') :=
          (Act.runFrom_bind_ok h _).trans hok
        refine .inl ⟨fault?_of_ok (Act.runFrom_bind_ok hregistry _), fun t ht => ?_⟩
        rcases List.mem_map.mp ht with ⟨x, hx, rfl⟩
        exact hall x hx
      · have hregistry : (registry port).runFrom c = (.error (.escape e), c'') :=
          (Act.runFrom_bind_ok h _).trans hfail
        exact .inr ⟨e, fault?_of_error (Act.runFrom_bind_error hregistry _), _,
          List.mem_map_of_mem hx, hescape⟩

end

/-- A query that fails reports a faulty configuration, but for some cases. It fails otherwise exactly
    if reading the document has one of the causes to fail without a report, or if there is a document,
    and among the payloads that the query has to read is one with an escape that cannot be read. -/
theorem fault_faces (c : Configuration) (q : Query) :
    (∀ f, fault? c q = some f →
      f.IsConfiguration ∨ (c.before q).Unreported f ∨ ∃ e, f = .escape e) ∧
    (∀ f, (c.before q).Unreported f → fault? c q = some f) ∧
    ((∃ e, fault? c q = some (.escape e)) ↔ ∃ d, (load.runFrom (c.before q)).1 = .ok d ∧
      ∃ t ∈ payloads d q, ∃ e, Escape.unescape? t = .error e) := by
  have hunreported : ∀ f, (c.before q).Unreported f → fault? c q = some f := by
    intro f hf
    rcases load_unreported hf with ⟨c', hload⟩
    exact fault?_of_load_error hload
  -- Each way to fail is taken in one of the cases, and excluded by the failure in the others.
  rcases load_cases (c.before q) with ⟨d, c', hload⟩ | ⟨f, c', hload, hf⟩
  · rcases fault?_of_load_ok hload with ⟨hfault, hall⟩ | ⟨e, hfault, t, ht, hescape⟩
    · have hnone : ¬ ∃ t ∈ payloads d q, ∃ e, Escape.unescape? t = .error e := by
        rintro ⟨t, ht, e, hescape⟩
        rcases hall t ht with ⟨payload, hpayload⟩
        rw [hpayload] at hescape
        injection hescape
      refine ⟨fun f hf => ?_, hunreported, ?_⟩
      · injection hfault.symm.trans hf
      · simpa [hfault, hload] using hnone
    · refine ⟨fun f hf => ?_, hunreported, ?_⟩
      · injection hfault.symm.trans hf with hf
        exact .inr (.inr ⟨e, hf.symm⟩)
      · simpa [hfault, hload] using ⟨t, ht, e, hescape⟩
  · have hfault := fault?_of_load_error hload
    refine ⟨fun g hg => ?_, hunreported, ?_⟩
    · injection hfault.symm.trans hg with hg
      exact hg ▸ hf.imp_right .inl
    · -- No failure of reading the document is one of reading an escape.
      have hother : ∀ e, f ≠ .escape e := by
        rintro e rfl
        rcases hf with ⟨r, hr, -⟩ | hf
        · injection hr
        · cases hf
      simpa [hfault, hload] using hother

/-- A document that is accepted holds a payload that ends after the first letter of an escape. Where
    there is no document, the usual one would listen on port zero; the name of the file is too long,
    or holds a character zero or half of a pair; or the directory of the file may not be searched. -/
theorem fault_unfaced :
    let text : String :=
      "\x7b\"servers\":[\x7b\"port\":6789,\"incoming\":[\x7b\"message\":\"m\",\"responses\":" ++
      "[\x7b\"host\":\"h\",\"port\":1,\"message\":\"\\\\x\"\x7d]\x7d]\x7d]\x7d"
    let c : Configuration :=
      { path := "c.json", initialise := true, defaultPort := 6789,
        files := ⟨[], [([Text.ofString "c.json"], .file (Utf8.encode text))], []⟩ }
    let absent (path : Text) (port : Port) : Configuration :=
      { path, initialise := true, defaultPort := port, files := ⟨[], [], []⟩ }
    let closed : Configuration :=
      { path := "d/c.json", initialise := true, defaultPort := 6789,
        files := ⟨[], [([Text.ofString "d"], .directory)], [(.search, [Text.ofString "d"], 13)]⟩ }
    let raised (c : Configuration) (q : Query) : Option Text := (c.fault? q).map Failure.label
    raised c .load = none ∧
      raised c (.registry 6789) = some "UnicodeDecodeError" ∧
      raised (absent "c.json" 0) .load = some "ValidationError" ∧
      raised (absent (Text.replicate 256 120) 6789) .load = some "OSError" ∧
      raised (absent [99, 0] 6789) .load = some "ValueError" ∧
      raised (absent [0xD800] 6789) .load = some "UnicodeEncodeError" ∧
      raised closed .load = some "PermissionError" := by
  decide +kernel

end Configuration

end MockHost
