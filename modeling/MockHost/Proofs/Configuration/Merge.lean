import MockHost.Proofs.Configuration.Faults
import MockHost.Proofs.Configuration.Ports
import MockHost.Proofs.Registry.Contents

/-!
# The Registry of a Port

The definitions for a port may be scattered over a document: the port may be named more than once,
a message may come up again under it, and a response may be repeated, perhaps in another spelling.
The registry of the port brings them together. It is what a plain reading of the document gives,
which picks out the entries of the port, in them those of a message, and in these the responses,
and lets go of what has come before.

The registry is filled by going through all responses of the port, so what is read of the document
for one message has to be found again among what has been added for all of them. For the messages
it is the other way round: each of them has been added as often as it has responses.

## Main definitions

* `ResponseDefinition.delivery?`: What a response comes to.
* `Document.Decodes`: Every payload for a port can be read.
* `Document.deliveriesOn`, `Document.messagesOn`: The plain reading.

## Theorems

* `Document.deliveriesOn_eq`, `Document.messagesOn_eq`: The plain reading, by what has been added.
* `Configuration.addResponses_holds`: What a registry holds when it has been filled.
* `Configuration.registry_holds`: The registry of a port.
* `Configuration.registry_congr`: Other ports have no part in it.
-/

namespace MockHost

section

variable {α β : Type}

/-- To leave entries out is to take nothing from them. -/
theorem flatMap_filter (p : β → Bool) (f : β → List α) (l : List β) :
    (l.filter p).flatMap f = l.flatMap fun b => if p b then f b else [] := by
  induction l with
  | nil => rfl
  | cons b l ih =>
      rw [List.flatMap_cons, List.filter_cons, ← ih]
      split
      · rw [List.flatMap_cons]
      · rfl

end

/-! ### The plain reading -/

/-- The delivery that a response comes to, if its payload can be read. -/
def ResponseDefinition.delivery? (r : ResponseDefinition) : Option Delivery :=
  (Escape.unescape? r.message).toOption.map fun payload => ⟨r.host, r.port, payload⟩

namespace Document

/-- Every payload for the port can be read. -/
def Decodes (d : Document) (port : Port) : Prop :=
  ∀ s ∈ d.servers, s.port = port → ∀ i ∈ s.incoming, ∀ r ∈ i.responses,
    ∃ payload, Escape.unescape? r.message = .ok payload

/-- The deliveries for a message on a port, in the order of the document: those of all responses
    in all entries of the message under all entries of the port. -/
def deliveriesOn (d : Document) (port : Port) (key : Text) : List Delivery :=
  ((d.servers.filter fun s => s.port = port).flatMap fun s =>
    (s.incoming.filter fun i => i.message = key).flatMap fun i =>
      i.responses.filterMap ResponseDefinition.delivery?).eraseDups

/-- The messages on a port that have a response, in the order of the document. -/
def messagesOn (d : Document) (port : Port) : List Text :=
  ((d.servers.filter fun s => s.port = port).flatMap fun s =>
    (s.incoming.filter fun i => !i.responses.isEmpty).map IncomingDefinition.message).eraseDups

/-- What is added to a registry for responses, each with the message that triggers it. -/
def additions (l : List (Text × ResponseDefinition)) : List (Text × Delivery) :=
  l.filterMap fun x => x.2.delivery?.map fun delivery => (x.1, delivery)

section

variable {d : Document} {port : Port}

theorem serversOn_eq (d : Document) (port : Port) :
    d.serversOn port = d.servers.filter fun s => s.port = port :=
  List.filter_congr fun _ _ => rfl

theorem additions_incoming (i : IncomingDefinition) :
    additions (i.responses.map fun r => (i.message, r)) =
      (i.responses.filterMap ResponseDefinition.delivery?).map fun delivery =>
        (i.message, delivery) := by
  rw [additions, List.filterMap_map, List.map_filterMap]
  rfl

theorem additions_responsesOn (d : Document) (port : Port) :
    additions (d.responsesOn port) = (d.servers.filter fun s => s.port = port).flatMap fun s =>
      s.incoming.flatMap fun i => (i.responses.filterMap ResponseDefinition.delivery?).map
        fun delivery => (i.message, delivery) := by
  rw [responsesOn, serversOn_eq, additions, List.filterMap_flatMap]
  refine List.flatMap_congr fun s _ => ?_
  rw [List.filterMap_flatMap]
  exact List.flatMap_congr fun i _ => additions_incoming i

/-- What is read for a message is what has been added for it. -/
theorem deliveriesOn_eq (d : Document) (port : Port) (key : Text) :
    d.deliveriesOn port key =
      (((additions (d.responsesOn port)).filter fun x => x.1 = key).map Prod.snd).eraseDups := by
  rw [deliveriesOn, additions_responsesOn, List.filter_flatMap, List.map_flatMap]
  refine congrArg _ (List.flatMap_congr fun s _ => ?_)
  rw [List.filter_flatMap, List.map_flatMap, flatMap_filter]
  refine List.flatMap_congr fun i _ => ?_
  rw [List.filter_map, List.map_map]
  -- All that an entry adds is for its own message.
  by_cases hkey : i.message = key
  · have hall : ∀ x ∈ i.responses.filterMap ResponseDefinition.delivery?,
        ((fun x : Text × Delivery => decide (x.1 = key)) ∘ fun delivery => (i.message, delivery)) x =
          true := fun _ _ => decide_eq_true hkey
    rw [decide_eq_true hkey, if_pos rfl, List.filter_eq_self.mpr hall]
    exact (List.map_id _).symm
  · have hnone : ∀ x ∈ i.responses.filterMap ResponseDefinition.delivery?,
        ¬ ((fun x : Text × Delivery => decide (x.1 = key)) ∘ fun delivery => (i.message, delivery)) x =
          true := fun _ _ h => hkey (of_decide_eq_true h)
    rw [decide_eq_false hkey, if_neg Bool.false_ne_true, List.filter_eq_nil_iff.mpr hnone]
    rfl

theorem delivery?_of_unescape {r : ResponseDefinition} {payload : Text}
    (h : Escape.unescape? r.message = .ok payload) :
    r.delivery? = some ⟨r.host, r.port, payload⟩ := by
  rw [ResponseDefinition.delivery?, h]
  rfl

/-- Where every payload can be read, a message comes up as soon as it has a response. -/
theorem messagesOn_eq (h : d.Decodes port) :
    d.messagesOn port = ((additions (d.responsesOn port)).map Prod.fst).eraseDups := by
  rw [messagesOn, additions_responsesOn, List.map_flatMap]
  refine eraseDups_flatMap_congr fun s hs => ?_
  rw [List.mem_filter, decide_eq_true_eq] at hs
  rw [List.map_flatMap, List.map_eq_flatMap, flatMap_filter]
  refine eraseDups_flatMap_congr fun i hi => ?_
  rw [List.map_map]
  -- The message has been added once for each response, of which there is one or not.
  have hconst := eraseDups_map_const i.message
    (i.responses.filterMap ResponseDefinition.delivery?)
  refine Eq.trans ?_ hconst.symm
  cases hresponses : i.responses with
  | nil => rfl
  | cons r rest =>
      rcases h s hs.1 hs.2 i hi r (hresponses ▸ List.mem_cons_self) with ⟨payload, hpayload⟩
      rw [List.filterMap_cons_some (delivery?_of_unescape hpayload)]
      rfl

/-- The response that stands in the document is among the deliveries. -/
theorem mem_deliveriesOn {s : ServerDefinition} {i : IncomingDefinition} {r : ResponseDefinition}
    {delivery : Delivery} (hs : s ∈ d.servers) (hi : i ∈ s.incoming) (hr : r ∈ i.responses)
    (hdelivery : r.delivery? = some delivery) : delivery ∈ d.deliveriesOn s.port i.message := by
  rw [deliveriesOn, List.mem_eraseDups, List.mem_flatMap]
  refine ⟨s, List.mem_filter.mpr ⟨hs, decide_eq_true rfl⟩, List.mem_flatMap.mpr ?_⟩
  exact ⟨i, List.mem_filter.mpr ⟨hi, decide_eq_true rfl⟩, List.mem_filterMap.mpr ⟨r, hr, hdelivery⟩⟩

/-- The payloads for a port are those of its responses. -/
theorem decodes_iff : d.Decodes port ↔
    ∀ x ∈ d.responsesOn port, ∃ payload, Escape.unescape? x.2.message = .ok payload := by
  rw [responsesOn, serversOn_eq]
  constructor
  · intro h x hx
    rcases List.mem_flatMap.mp hx with ⟨s, hs, hx⟩
    rcases List.mem_flatMap.mp hx with ⟨i, hi, hx⟩
    rcases List.mem_map.mp hx with ⟨r, hr, rfl⟩
    rw [List.mem_filter, decide_eq_true_eq] at hs
    exact h s hs.1 hs.2 i hi r hr
  · intro h s hs hport i hi r hr
    refine h (i.message, r) (List.mem_flatMap.mpr ⟨s, ?_, List.mem_flatMap.mpr ⟨i, hi, ?_⟩⟩)
    · exact List.mem_filter.mpr ⟨hs, decide_eq_true hport⟩
    · exact List.mem_map_of_mem hr

end

end Document

/-! ### Filling a registry -/

namespace Configuration

section

variable {c c' : Configuration} {d : Document}

/-- A registry that is filled holds what has been added, after what it held before. -/
theorem addResponses_holds {l : List (Text × ResponseDefinition)} {r : Registry}
    {added : List (Text × Delivery)} (hr : r.Holds added) (hfree : r.frozen = false)
    (hl : ∀ x ∈ l, ∃ payload, Escape.unescape? x.2.message = .ok payload) (c : Configuration) :
    ∃ r' c', (addResponses r l).runFrom c = (.ok r', c') ∧ r'.frozen = false ∧
      r'.Holds (added ++ Document.additions l) := by
  -- On the responses that are left. What has been added so far grows by one each time.
  induction l generalizing r added c with
  | nil => exact ⟨r, c, rfl, hfree, (List.append_nil added).symm ▸ hr⟩
  | cons x rest ih =>
      rcases x with ⟨key, response⟩
      rcases hl _ List.mem_cons_self with ⟨payload, hpayload⟩
      rcases hr.add hfree key ⟨response.host, response.port, payload⟩ with
        ⟨r₁, logged, hadd, hfree₁, hr₁⟩
      rcases ih hr₁ hfree₁ (fun x hx => hl x (List.mem_cons_of_mem _ hx))
        { c with trace := c.trace ++ logged } with ⟨r', c', hrun, hfree', hr'⟩
      have hsplit : Document.additions ((key, response) :: rest) =
          (key, ⟨response.host, response.port, payload⟩) :: Document.additions rest := by
        refine List.filterMap_cons_some ?_
        rw [Document.delivery?_of_unescape hpayload]
        rfl
      refine ⟨r', c', ?_, hfree', ?_⟩
      · rw [addResponses, hpayload]
        dsimp only
        rw [hadd]
        dsimp only
        rw [Act.runFrom_bind_ok (Act.runFrom_modify _ c), hrun]
      · rw [hsplit, ← List.singleton_append, ← List.append_assoc]
        exact hr'

/-- The registry of a port brings together what the document holds for the port. -/
theorem registry_holds (hload : load.runFrom c = (.ok d, c')) {port : Port}
    (hdecodes : d.Decodes port) :
    ∃ r c₁, (registry port).runFrom c = (.ok r, c₁) ∧ r.frozen = false ∧
      (∀ key, r.lookup key = d.deliveriesOn port key) ∧ r.keys = d.messagesOn port := by
  rcases addResponses_holds Registry.holds_empty rfl (Document.decodes_iff.mp hdecodes) c' with
    ⟨r, c₁, hrun, hfree, hholds⟩
  rw [List.nil_append] at hholds
  refine ⟨r, c₁, ?_, hfree, fun key => ?_, ?_⟩
  · rw [registry, Act.runFrom_bind_ok hload, hrun]
  · rw [hholds.lookup, Document.deliveriesOn_eq]
  · rw [hholds.keys, Document.messagesOn_eq hdecodes]

/-- If there is a registry, all of its payloads have been read. -/
theorem decodes_of_registry (hload : load.runFrom c = (.ok d, c')) {port : Port} {r : Registry}
    (hregistry : ((registry port).runFrom c).1 = .ok r) : d.Decodes port := by
  rw [registry, Act.runFrom_bind_ok hload] at hregistry
  rcases addResponses_cases (d.responsesOn port) (r := {}) rfl c' with
    ⟨_, _, -, hall⟩ | ⟨e, _, hfail, -⟩
  · exact Document.decodes_iff.mpr hall
  · rw [hfail] at hregistry
    injection hregistry

/-- What a document holds for other ports makes no difference to the registry of a port. -/
theorem registry_congr {c₁ c₁' : Configuration} {d₁ : Document}
    (hload : load.runFrom c = (.ok d, c')) (hload₁ : load.runFrom c₁ = (.ok d₁, c₁')) {port : Port}
    (hport : d₁.serversOn port = d.serversOn port) :
    ((registry port).runFrom c₁).1 = ((registry port).runFrom c).1 := by
  have hresponses : d₁.responsesOn port = d.responsesOn port := by
    rw [Document.responsesOn, Document.responsesOn, hport]
  rw [registry_of_load hload₁ port, registry_of_load hload port,
    hresponses, (addResponses_spec (d.responsesOn port) {} c₁' c').1]

end

end Configuration

end MockHost
