import MockHost.Proofs.Configuration.Merge
import MockHost.Proofs.Pool.Bootstrap

/-!
# The Registries of the Servers

Each port of a configuration is given one server, and with it the registry of the port. So a
response that stands anywhere in the document is among the deliveries of the one server that
listens on its port, whichever of the entries for the port it stands in, and however many there
are of them.

## Main definitions

* `Host.Equipped`: The servers that go with a document.

## Theorems

* `Host.bootstrap_equipped`: What a pool is given for a configuration.
* `Host.Equipped.existsUnique`: The server that a response belongs to.
* `Host.registries_merge`: From the document to the registries of the servers.
-/

namespace MockHost

namespace Host

/-- The servers are those of the ports of the document, in the same order, and each of them has
    what the document holds for its port. -/
structure Equipped (d : Document) (ids : List ServerId) (h : Host) : Prop where
  ports : ids.map h.portOf = d.ports
  server : ∀ id ∈ ids, ∃ s, h.server? id = some s ∧ s.status = .opened ∧
    s.registry.frozen = true ∧ s.registry.keys = d.messagesOn s.port ∧
    (∀ key, s.registry.lookup key = d.deliveriesOn s.port key) ∧ d.Decodes s.port

section

variable {h h' : Host} {d : Document} {ids : List ServerId}

theorem sound_of_documentOf (hdocument : h.documentOf = .ok d) (hvalid : d.Valid) :
    h.configuration.Sound := by
  intro d' hd'
  have hkept : ({ h.configuration with trace := #[] } : Configuration).document = some d' := hd'
  have hok : h.documentOf = .ok d' := congrArg Prod.fst (Configuration.load_runFrom hkept)
  injection hok.symm.trans hdocument with heq
  exact heq ▸ hvalid

/-- The registry of a port of the host is the one that its document gives. -/
theorem registryOf_merges {p : Port} {r : Registry} (hdocument : h.documentOf = .ok d)
    (hr : h.registryOf p = .ok r) : d.Decodes p ∧ r.keys = d.messagesOn p ∧
      ∀ key, r.lookup key = d.deliveriesOn p key := by
  rcases hload : Configuration.load.runFrom { h.configuration with trace := #[] } with ⟨result, c⟩
  have hresult : result = .ok d := (congrArg Prod.fst hload).symm.trans hdocument
  rw [hresult] at hload
  have hdecodes : d.Decodes p := Configuration.decodes_of_registry hload hr
  rcases Configuration.registry_holds hload hdecodes with ⟨r', c₁, hrun, -, hlookup, hkeys⟩
  have hr' : h.registryOf p = .ok r' := congrArg Prod.fst hrun
  injection hr'.symm.trans hr with heq
  subst heq
  exact ⟨hdecodes, hkeys, hlookup⟩

theorem Grown.equipped (hG : Grown h d.ports h') (hdocument : h.documentOf = .ok d) :
    Equipped d (List.range' h.network.servers.size d.ports.length) h' where
  ports := by
    refine List.ext_getElem? fun i => ?_
    rw [List.getElem?_map]
    cases hp : d.ports[i]? with
    | none =>
        rw [List.getElem?_eq_none (List.length_range'.trans_le (List.getElem?_eq_none_iff.mp hp))]
        rfl
    | some p =>
        rcases hG.server i p hp with ⟨-, r, s, -, hs, -, -, hport, -⟩
        have hi : i < d.ports.length := (List.getElem?_eq_some_iff.mp hp).1
        rw [List.getElem?_range' hi, Nat.one_mul, Option.map_some, portOf_eq hs, hport]
  server id hid := by
    rcases List.mem_range'.mp hid with ⟨i, hi, rfl⟩
    rw [Nat.one_mul]
    rcases hG.server i d.ports[i] (List.getElem?_eq_getElem hi) with
      ⟨-, r, s, hr, hs, hopened, -, hport, hregistry⟩
    rcases registryOf_merges hdocument hr with ⟨hdecodes, hkeys, hlookup⟩
    refine ⟨s, hs, hopened, ?_, ?_, ?_, hport.symm ▸ hdecodes⟩
    · rw [hregistry]
      rfl
    · rw [hregistry, hport]
      exact hkeys
    · rw [hregistry, hport]
      exact hlookup

/-- Where a pool is given the servers of a configuration, they are those of its document. -/
theorem bootstrap_equipped {k : Nat} {settings : Settings} {host : Option Text}
    {behavior : Option Behavior} {hooks : Option (List Hook)} (hdocument : h.documentOf = .ok d)
    (hvalid : d.Valid) (herrors : h.network.SystemErrorsAtShutdown)
    (hrun : (bootstrap (.ofPatience k) (made settings host behavior hooks)).runFrom h =
      (.ok ids, h')) : Equipped d ids h' := by
  have hmake : Makes (made settings host behavior hooks) := makes_made settings host behavior hooks
  rcases bootstrap_spec k hmake (sound_of_documentOf hdocument hvalid) herrors with
    ⟨f, h₁, hfail, -⟩ | ⟨d', hdocument', -, ⟨h₁, hall, hok, hL⟩ | ⟨before, f, h₁, -, hfail, -⟩⟩
  · injection hfail.symm.trans hdocument
  · injection hdocument'.symm.trans hdocument with heq
    subst heq
    have hfree : ∀ p ∈ d'.ports, h.pool.contains p = false := fun p hp =>
      contains_of_accepted hmake (hvalid.ne_zero hp) (hall p hp)
    injection hok.symm.trans hrun with hids hh
    injection hids with hids
    subst hids hh
    exact (hL.grown d'.ports_nodup hfree fun _ _ => rfl).equipped hdocument
  · injection (hfail.symm.trans hrun) with hresult
    injection hresult

/-- A response of the document belongs to the server of its port and to no other one. -/
theorem Equipped.existsUnique (hE : Equipped d ids h) {s : ServerDefinition}
    {i : IncomingDefinition} {r : ResponseDefinition} (hs : s ∈ d.servers) (hi : i ∈ s.incoming)
    (hr : r ∈ i.responses) : ∃ delivery, r.delivery? = some delivery ∧
      ∃! id, id ∈ ids ∧ ∃ server, h.server? id = some server ∧ server.port = s.port ∧
        delivery ∈ server.registry.lookup i.message := by
  have hport : s.port ∈ ids.map h.portOf := hE.ports.symm ▸ (d.mem_ports s.port).mpr ⟨s, hs, rfl⟩
  rcases List.mem_map.mp hport with ⟨id, hid, hidPort⟩
  rcases hE.server id hid with ⟨server, hserver, -, -, -, hlookup, hdecodes⟩
  have hsame : server.port = s.port := (portOf_eq hserver).symm.trans hidPort
  rcases hdecodes s hs hsame.symm i hi r hr with ⟨payload, hpayload⟩
  have hdelivery := Document.delivery?_of_unescape hpayload
  refine ⟨_, hdelivery, id, ⟨hid, server, hserver, hsame, ?_⟩, ?_⟩
  · rw [hlookup, hsame]
    exact Document.mem_deliveriesOn hs hi hr hdelivery
  · -- Another server with the port would be the second one, but each port comes once.
    rintro j ⟨hj, server', hserver', hsame', -⟩
    have hnodup : (ids.map h.portOf).Nodup := hE.ports.symm ▸ d.ports_nodup
    refine List.inj_on_of_nodup_map hnodup hj hid ?_
    rw [hidPort, portOf_eq hserver', hsame']

/-- What a document holds for a port, in however many places, is brought together in one registry,
    to which nothing comes from other ports, and in the end it is found in one server. -/
theorem registries_merge {c c' : Configuration} (hload : Configuration.load.runFrom c = (.ok d, c'))
    (hvalid : d.Valid) :
    (Configuration.ports.runFrom c = (.ok d.ports, c') ∧ d.ports.Pairwise (· < ·) ∧
      ∀ p, p ∈ d.ports ↔ ∃ s ∈ d.servers, s.port = p) ∧
    (∀ port, d.Decodes port → ∃ r c₁, (Configuration.registry port).runFrom c = (.ok r, c₁) ∧
      r.frozen = false ∧ (∀ key, r.lookup key = d.deliveriesOn port key) ∧
      r.keys = d.messagesOn port) ∧
    (∀ port c₁ c₁' d₁, Configuration.load.runFrom c₁ = (.ok d₁, c₁') →
      d₁.serversOn port = d.serversOn port →
      ((Configuration.registry port).runFrom c₁).1 = ((Configuration.registry port).runFrom c).1) ∧
    ∀ k settings host behavior hooks h ids h', h.documentOf = .ok d →
      h.network.SystemErrorsAtShutdown →
      (bootstrap (.ofPatience k) (made settings host behavior hooks)).runFrom h = (.ok ids, h') →
      Equipped d ids h' ∧ ∀ s ∈ d.servers, ∀ i ∈ s.incoming, ∀ r ∈ i.responses,
        ∃ delivery, r.delivery? = some delivery ∧
          ∃! id, id ∈ ids ∧ ∃ server, h'.server? id = some server ∧ server.port = s.port ∧
            delivery ∈ server.registry.lookup i.message := by
  refine ⟨⟨Configuration.ports_of_load hload, d.ports_sorted, d.mem_ports⟩,
    fun port hdecodes => Configuration.registry_holds hload hdecodes,
    fun port c₁ c₁' d₁ hload₁ hport => Configuration.registry_congr hload hload₁ hport, ?_⟩
  intro k settings host behavior hooks h ids h' hdocument herrors hrun
  have hE := bootstrap_equipped hdocument hvalid herrors hrun
  exact ⟨hE, fun s hs i hi r hr => hE.existsUnique hs hi hr⟩

/-- A port that is named twice, with a message that comes up under both and a response that is
    there again in another spelling, next to another port with the same message. -/
theorem registries_merge_twice :
    let answer (port : Port) (t : Text) : ResponseDefinition := ⟨"h", port, t⟩
    let document : Document :=
      ⟨[⟨7002, [⟨"m", [answer 1 "A", answer 1 "\\x41", answer 1 "B"]⟩, ⟨"n", []⟩]⟩,
        ⟨7001, [⟨"m", [answer 2 "C"]⟩]⟩,
        ⟨7002, [⟨"k", [answer 1 "A"]⟩, ⟨"m", [answer 1 "A", answer 3 "D"]⟩]⟩]⟩
    let settings : Settings := .usual ""
    let c : Configuration :=
      { Configuration.create settings ⟨[], [], []⟩ none none with document := some document }
    let h : Host := { network := { settings }, configuration := c }
    Configuration.load.runFrom c = (.ok document, c) ∧ document.Valid ∧
      (∃ r c₁, (Configuration.registry 7002).runFrom c = (.ok r, c₁) ∧ r.frozen = false ∧
        r.lookup "m" = [⟨"h", 1, "A"⟩, ⟨"h", 1, "B"⟩, ⟨"h", 3, "D"⟩] ∧ r.keys = ["m", "k"]) ∧
      ∃ ids h', (bootstrap (.ofPatience 1) (made settings none none none)).runFrom h =
          (.ok ids, h') ∧ Equipped document ids h' := by
  intro answer document settings c h
  have hload : Configuration.load.runFrom c = (.ok document, c) := rfl
  have hvalid : document.Valid := by
    unfold Document.Valid
    decide
  rcases registries_merge hload hvalid with ⟨-, hregistry, -, hservers⟩
  have hdecodes : document.Decodes 7002 := by
    intro s hs hport i hi r hr
    have hall : ∀ s ∈ document.servers, ∀ i ∈ s.incoming, ∀ r ∈ i.responses,
        (Escape.unescape? r.message).toOption.isSome = true := by decide +kernel
    have hsome := hall s hs i hi r hr
    cases hunescape : Escape.unescape? r.message with
    | ok payload => exact ⟨payload, rfl⟩
    | error e =>
        rw [hunescape] at hsome
        injection hsome
  refine ⟨hload, hvalid, ?_, ?_⟩
  · rcases hregistry 7002 hdecodes with ⟨r, c₁, hrun, hfree, hlookup, hkeys⟩
    refine ⟨r, c₁, hrun, hfree, ?_, ?_⟩
    · rw [hlookup]
      decide +kernel
    · rw [hkeys]
      decide +kernel
  · have herrors : h.network.SystemErrorsAtShutdown := fun x hx => (List.not_mem_nil hx).elim
    have hmake : Makes (made settings none none none) := makes_made settings none none none
    have hall : ∀ s ∈ document.servers,
        (h.refusal? (made settings none none none) s.port).isNone = true := by decide +kernel
    rcases bootstrap_spec 1 hmake (sound_of_documentOf (h := h) rfl hvalid) herrors with
      ⟨f, _, hfail, -⟩ | ⟨d, hdocument, -, ⟨h', -, hrun, -⟩ | ⟨before, f, -, hfirst, -⟩⟩
    · injection hfail
    · exact ⟨_, h', hrun, (hservers 1 settings none none none h _ h' rfl herrors hrun).1⟩
    · -- It is a port of the document, and none of these is refused.
      injection hdocument with hdocument
      subst hdocument
      rcases hfirst with ⟨p, rest, hports, -, hrefused⟩
      have hp : p ∈ document.ports := by
        rw [hports]
        exact List.mem_append_right before List.mem_cons_self
      rcases (document.mem_ports p).mp hp with ⟨s, hs, rfl⟩
      rw [Option.isNone_iff_eq_none.mp (hall s hs)] at hrefused
      injection hrefused

end

end Host

end MockHost
