import MockHost.Proofs.Configuration.Faults

/-!
# What a Query Gives

A configuration is asked for its document, for the ports, for the definitions of a port or for its
registry. All of these read the document first, and what they give follows from it. So there are
two questions, what reading the document comes to and what a document gives, and neither needs the
other.

While no document is kept, the first one is answered by the files alone. If there is a file, that is
read. If there is none and the usual document may be written, that is written, and then the file is
read all the same. The second one is answered without the configuration. Filling a registry leaves
notes in its trace, and these come one by one with the payloads, but it ends as if all payloads were
read before the first delivery is added.

## Main definitions

* `Configuration.Answer`, `Configuration.answer`: What a query gives.
* `Configuration.consult`: What reading the document comes to, by the files alone.
* `Configuration.lay`: What putting the usual document in place comes to.
* `Document.answerTo`: What a document gives.

## Theorems

* `Configuration.load_unread`: Reading the document.
* `Configuration.addResponses_runFrom`: Filling a registry.
* `Configuration.answer_runFrom`: Any query.
-/

namespace MockHost

namespace Configuration

/-- What a query gives. -/
inductive Answer where
  | document (d : Document)
  | ports (ports : List Port)
  | servers (definitions : List ServerDefinition)
  | registry (r : Registry)

/-- Asks for something. -/
def answer : Query → Act Configuration Answer
  | .load => do return .document (← load)
  | .reload => do return .document (← reload)
  | .ports => do return .ports (← ports)
  | .serversOn port => do return .servers (← serversOn port)
  | .registry port => do return .registry (← registry port)

/-- What comes of a query. -/
def reply (c : Configuration) (q : Query) : Except Failure Answer := ((answer q).runFrom c).1

/-- The document that a query works with, or why there is none. -/
def consulted (c : Configuration) (q : Query) : Except Failure Document :=
  (load.runFrom (c.before q)).1

end Configuration

namespace Document

open MockHost.Configuration (Query Answer)

/-- A delivery added to what has been collected, unless it is there already. -/
def collect (r : Registry) (x : Text × Delivery) : Registry :=
  match r.add x.1 x.2 with
  | .ok (.added r') => r'
  | _ => r

/-- What a response delivers, if its payload can be read. -/
def deliveryOf (x : Text × ResponseDefinition) : Except Failure (Text × Delivery) :=
  match Escape.unescape? x.2.message with
  | .ok payload => .ok (x.1, ⟨x.2.host, x.2.port, payload⟩)
  | .error e => .error (.escape e)

/-- The registry for a port: the payloads are read, and what they make up is collected. -/
def registryOn (d : Document) (port : Port) : Except Failure Registry :=
  ((d.responsesOn port).mapM deliveryOf).map fun deliveries => deliveries.foldl collect {}

/-- What a document gives. -/
def answerTo (d : Document) : Query → Except Failure Answer
  | .load | .reload => .ok (.document d)
  | .ports => .ok (.ports d.ports)
  | .serversOn port => .ok (.servers (d.serversOn port))
  | .registry port => (d.registryOn port).map .registry

end Document

namespace Configuration

/-! ### Reading the document -/

/-- The files after the usual document has been put in place, and why it has not been, if so. -/
def lay (c : Configuration) : Except Failure Unit × FileTree :=
  match c.files.makeDirectory (Path.parent c.path) with
  | .error (e, files) => (.error (e.reportedBy (unwritable c.path)), files)
  | .ok files =>
    match Document.usual c.defaultPort with
    | .error e => (.error (.invalid e), files)
    | .ok d =>
      match files.write c.path (Utf8.encode (d.toValue.pretty 0)) with
      | .error e => (.error (e.reportedBy (unwritable c.path)), files)
      | .ok files => (.ok (), files)

/-- What reading the document comes to if none is kept, and the files after it. -/
def consult (c : Configuration) : Except Failure Document × FileTree :=
  match c.files.holds c.path with
  | .error e => (.error (.system e), c.files)
  | .ok true => (c.readDocument, c.files)
  | .ok false =>
    if c.initialise then (c.lay.1.bind fun _ => { c with files := c.lay.2 }.readDocument, c.lay.2)
    else (.error (.reported (notFound c.path)), c.files)

section

variable {c : Configuration}

/-- To forget a document that is not kept changes nothing. -/
theorem unread_eq (hunread : c.document = none) : { c with document := none } = c := by
  rw [← hunread]

theorem writeDefaults_runFrom (c : Configuration) :
    ∃ t, writeDefaults.runFrom c =
      (c.lay.1.map fun _ => c.path, { c with files := c.lay.2, trace := t }) := by
  rw [lay]
  cases hmake : c.files.makeDirectory (Path.parent c.path) with
  | error e => exact ⟨c.trace, writeDefaults_undirected hmake⟩
  | ok files =>
      dsimp only
      cases husual : Document.usual c.defaultPort with
      | error e => exact ⟨c.trace, writeDefaults_invalid hmake husual⟩
      | ok d =>
          dsimp only
          cases hwrite : files.write c.path (Utf8.encode (d.toValue.pretty 0)) with
          | error e => exact ⟨c.trace, writeDefaults_unwritten hmake husual hwrite⟩
          | ok files' => exact writeDefaults_written hmake husual hwrite

/-- What is read is kept. -/
theorem readIn_runFrom (hunread : c.document = none) :
    ∃ t, readIn.runFrom c =
      (c.readDocument, { c with document := c.readDocument.toOption, trace := t }) := by
  rw [readIn, Act.runFrom_bind_ok (Act.runFrom_get c)]
  cases c.readDocument with
  | error f => exact ⟨c.trace, congrArg (Prod.mk _) (unread_eq hunread).symm⟩
  | ok d => exact ⟨_, rfl⟩

theorem consult_unheld {e : SystemError} (hholds : c.files.holds c.path = .error e) :
    c.consult = (.error (.system e), c.files) := by
  rw [consult, hholds]

theorem consult_held (hholds : c.files.holds c.path = .ok true) :
    c.consult = (c.readDocument, c.files) := by
  rw [consult, hholds]

theorem consult_absent (hholds : c.files.holds c.path = .ok false)
    (hinitialise : c.initialise = false) :
    c.consult = (.error (.reported (notFound c.path)), c.files) := by
  rw [consult, hholds, hinitialise]
  rfl

theorem consult_wanting (h : c.Wanting) : c.consult =
    (c.lay.1.bind fun _ => { c with files := c.lay.2 }.readDocument, c.lay.2) := by
  rw [consult, h.missing, h.initialise]
  rfl

/-- If no document is kept, it depends on the files alone what reading it comes to. -/
theorem load_unread (hunread : c.document = none) :
    ∃ t, load.runFrom c = (c.consult.1,
      { c with files := c.consult.2, document := c.consult.1.toOption, trace := t }) := by
  -- Where nothing is read there is still no document, so that nothing has to be forgotten.
  have hsame : ∀ f, ((.error f : Except Failure Document), c) = (.error f,
      { c with files := c.files, document := none, trace := c.trace }) :=
    fun f => congrArg (Prod.mk _) (unread_eq hunread).symm
  cases hholds : c.files.holds c.path with
  | error e =>
      rw [load_unheld hunread hholds, consult_unheld hholds]
      exact ⟨c.trace, hsame _⟩
  | ok held =>
      cases held with
      | true =>
          rw [load_held hunread hholds, consult_held hholds]
          exact readIn_runFrom hunread
      | false =>
          by_cases hinitialise : c.initialise = true
          · have hwanting : c.Wanting := ⟨hunread, hholds, hinitialise⟩
            rw [load_wanting hwanting, consult_wanting hwanting]
            rcases writeDefaults_runFrom c with ⟨t, hwrite⟩
            rcases hlay : c.lay with ⟨_ | _, files⟩ <;> rw [hlay] at hwrite
            · rw [Act.runFrom_bind_error hwrite]
              have hsame := unread_eq (c := { c with files := files, trace := t }) hunread
              exact ⟨t, congrArg (Prod.mk _) hsame.symm⟩
            · -- What has been put in place is read from there.
              rw [Act.runFrom_bind_ok hwrite]
              exact readIn_runFrom (c := { c with files := files, trace := t }) hunread
          · rw [Bool.not_eq_true] at hinitialise
            rw [load_absent hunread hholds hinitialise, consult_absent hholds hinitialise]
            exact ⟨c.trace, hsame _⟩

/-! ### Answers -/

/-- What a response adds to a registry that is being filled is collected. -/
theorem addLogged_collect {r : Registry} (hfree : r.frozen = false) (x : Text × Delivery) :
    ∃ logged, r.addLogged x.1 x.2 = .ok (Document.collect r x, logged) ∧
      (Document.collect r x).frozen = false := by
  rw [Document.collect, Registry.addLogged, Registry.add, hfree, if_neg Bool.false_ne_true]
  by_cases hthere : (r.lookup x.1).contains x.2 = true
  · rw [if_pos hthere]
    exact ⟨_, rfl, hfree⟩
  · rw [if_neg hthere]
    exact ⟨_, rfl, rfl⟩

/-- Filling a registry ends as if all payloads were read first. -/
theorem addResponses_runFrom (l : List (Text × ResponseDefinition)) {r : Registry}
    (hfree : r.frozen = false) (c : Configuration) :
    ∃ t, (addResponses r l).runFrom c =
      ((l.mapM Document.deliveryOf).map fun deliveries => deliveries.foldl Document.collect r,
        { c with trace := t }) := by
  -- On the responses that are left. The registry and the trace differ from one to the next.
  induction l generalizing r c with
  | nil => exact ⟨c.trace, rfl⟩
  | cons x rest ih =>
      rcases x with ⟨key, response⟩
      rw [addResponses, List.mapM_cons, Document.deliveryOf]
      cases Escape.unescape? response.message with
      | error e => exact ⟨c.trace, rfl⟩
      | ok payload =>
          dsimp only
          rcases addLogged_collect hfree (key, ⟨response.host, response.port, payload⟩) with
            ⟨logged, hadd, hfree'⟩
          rw [hadd]
          dsimp only
          rw [Act.runFrom_bind_ok (Act.runFrom_modify _ c)]
          rcases ih hfree' { c with trace := c.trace ++ logged } with ⟨t, hrest⟩
          rw [hrest]
          refine ⟨t, ?_⟩
          -- The delivery comes before those of the rest, or the rest fails.
          rcases rest.mapM Document.deliveryOf with _ | deliveries <;> rfl

/-- Every query reads the document first. What it gives comes from the document, and to the files
    it does what reading the document does. -/
theorem answer_runFrom (c : Configuration) (q : Query) :
    ∃ t, (answer q).runFrom c = ((c.consulted q).bind fun d => d.answerTo q,
      { (load.runFrom (c.before q)).2 with trace := t }) := by
  rw [consulted]
  rcases hload : load.runFrom (c.before q) with ⟨f | d, c'⟩
  · -- Without a document, nothing comes after reading it.
    refine ⟨c'.trace, ?_⟩
    cases q with
    | load => exact Act.runFrom_bind_error hload _
    | reload => exact Act.runFrom_bind_error ((reload_runFrom c).trans hload) _
    | ports => exact Act.runFrom_bind_error (Act.runFrom_bind_error hload _) _
    | serversOn port => exact Act.runFrom_bind_error (Act.runFrom_bind_error hload _) _
    | registry port => exact Act.runFrom_bind_error (Act.runFrom_bind_error hload _) _
  · cases q with
    | load => exact ⟨c'.trace, Act.runFrom_bind_ok hload _⟩
    | reload => exact ⟨c'.trace, Act.runFrom_bind_ok ((reload_runFrom c).trans hload) _⟩
    | ports => exact ⟨c'.trace, Act.runFrom_bind_ok (Act.runFrom_bind_ok hload _) _⟩
    | serversOn port => exact ⟨c'.trace, Act.runFrom_bind_ok (Act.runFrom_bind_ok hload _) _⟩
    | registry port =>
        -- This query alone goes on after the document has been read, and leaves notes.
        rcases addResponses_runFrom (d.responsesOn port) (r := {}) rfl c' with ⟨t, hfill⟩
        have hregistry : (registry port).runFrom c = (d.registryOn port, { c' with trace := t }) :=
          (Act.runFrom_bind_ok hload _).trans hfill
        refine ⟨t, ?_⟩
        cases hon : d.registryOn port with
        | error e =>
            rw [hon] at hregistry
            rw [answer, Act.runFrom_bind_error hregistry]
            simp only [Except.bind, Document.answerTo, hon, Except.map]
        | ok r =>
            rw [hon] at hregistry
            rw [answer, Act.runFrom_bind_ok hregistry]
            simp only [Except.bind, Document.answerTo, hon, Except.map, Act.runFrom_pure]

theorem reply_eq (c : Configuration) (q : Query) :
    c.reply q = (c.consulted q).bind fun d => d.answerTo q := by
  rcases answer_runFrom c q with ⟨t, hrun⟩
  rw [reply, hrun]

end

end Configuration

end MockHost
