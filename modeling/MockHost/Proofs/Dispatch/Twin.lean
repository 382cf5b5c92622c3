import MockHost.Proofs.Client.Parts
import MockHost.Proofs.Dispatch.Trace

/-!
# Deliveries in Two Worlds

A delivery only knows its own client, and whatever it does to a world it does through
the operations of a transport. Two transports on which the operations come to the same
therefore give the same record, even where the sockets have other names and the worlds
are of different kinds. This is how a delivery among others will be compared with the
same delivery alone.

The two worlds need not stay alike whatever happens: what other threads do to the first
one in between is only known once everything is over. So the comparison is made under a
condition on the world in the end, its calm, which no operation can bring back when it
has been lost.

## Main definitions

* `Act.Twin`: Two acts that come to the same, and what their worlds have in common after it.
* `Transport.Twin`: Two transports whose operations are twins.
* `Client.Holding`: Two clients of one endpoint, each with its own socket or none.

## Theorems

* `Client.sendBytes_twin`, `Client.close_twin`: So are the operations of a client.
* `Dispatcher.dispatchSafely_twin`: So are deliveries.
-/

namespace MockHost

namespace Act

section

variable {σ τ α β : Type} {calm : σ → Prop}

/-- What two acts have come to: both to results, or both to the same failure. -/
def Meets (Q : α → α → σ → τ → Prop) (E : Failure → σ → τ → Prop) :
    Except Failure α × σ → Except Failure α × τ → Prop
  | (.ok x, s), (.ok y, t) => Q x y s t
  | (.error f, s), (.error g, t) => f = g ∧ E f s t
  | _, _ => False

/-- A world that is calm was calm before. -/
def Back (calm : σ → Prop) (s s' : σ) : Prop := calm s' → calm s

theorem back_path : Path (Back calm) where
  refl _ := id
  trans h h' := h ∘ h'

/-- A sequence that ends in calm has been calm after its first part. -/
theorem calm_of_bind {a : Act σ α} {f : α → Act σ β} (hf : ∀ x, Moves (Back calm) (f x)) {s : σ}
    (h : calm ((a >>= f).runFrom s).2) : calm (a.runFrom s).2 := by
  rw [runFrom_bind] at h
  rcases hrun : a.runFrom s with ⟨_ | x, s'⟩ <;> rw [hrun] at h
  · exact h
  · exact hf x s' h

/-- Two acts that come to the same in worlds that are as `P` says. If they give results these
    and the worlds are then as `Q` says, and after a failure the worlds are as `E` says. This
    need only be so where the first act ends in calm. -/
structure Twin (calm : σ → Prop) (P : σ → τ → Prop) (a : Act σ α) (b : Act τ α)
    (Q : α → α → σ → τ → Prop) (E : Failure → σ → τ → Prop) : Prop where
  back : Moves (Back calm) a
  meets : ∀ s t, P s t → calm (a.runFrom s).2 → Meets Q E (a.runFrom s) (b.runFrom t)

variable {P P' : σ → τ → Prop} {Q Q' : α → α → σ → τ → Prop} {R : β → β → σ → τ → Prop}
  {E E' : Failure → σ → τ → Prop}

theorem Twin.pure {x y : α} (h : ∀ s t, P s t → Q x y s t) :
    Twin calm P (pure x : Act σ α) (pure y : Act τ α) Q E :=
  ⟨Moves.pure back_path x, fun s t hP _ => h s t hP⟩

theorem Twin.throw {f : Failure} (h : ∀ s t, P s t → E f s t) :
    Twin calm P (throw f : Act σ α) (throw f : Act τ α) Q E :=
  ⟨Moves.throw back_path f, fun s t hP _ => ⟨rfl, h s t hP⟩⟩

theorem Meets.imp {r : Except Failure α × σ} {r' : Except Failure α × τ} (h : Meets Q E r r')
    (hQ : ∀ x y s t, Q x y s t → Q' x y s t) (hE : ∀ f s t, E f s t → E' f s t) :
    Meets Q' E' r r' := by
  rcases r with ⟨f | x, s⟩ <;> rcases r' with ⟨g | y, t⟩
  · exact ⟨h.1, hE f s t h.2⟩
  · exact h.elim
  · exact h.elim
  · exact hQ x y s t h

theorem Meets.of_eq {r : Except Failure α × σ} {r' : Except Failure α × τ} (hres : r.1 = r'.1)
    (hok : ∀ x, r.1 = .ok x → Q x x r.2 r'.2) (herror : ∀ f, r.1 = .error f → E f r.2 r'.2) :
    Meets Q E r r' := by
  rcases r with ⟨f | x, s⟩ <;> rcases r' with ⟨g | y, t⟩ <;> cases hres
  · exact ⟨rfl, herror f rfl⟩
  · exact hok x rfl

theorem Meets.and {r : Except Failure α × σ} {r' : Except Failure α × τ} (h : Meets Q E r r')
    (h' : Meets Q' E' r r') :
    Meets (fun x y s t => Q x y s t ∧ Q' x y s t) (fun f s t => E f s t ∧ E' f s t) r r' := by
  rcases r with ⟨f | x, s⟩ <;> rcases r' with ⟨g | y, t⟩
  · exact ⟨h.1, h.2, h'.2⟩
  · exact h.elim
  · exact h.elim
  · exact ⟨h, h'⟩

/-- Where one of them gives a result it does not matter what would be so after a failure. -/
theorem Meets.of_ok {r : Except Failure α × σ} {r' : Except Failure α × τ} (h : Meets Q E r r')
    {y : α} (hok : r'.1 = .ok y) : Meets Q E' r r' := by
  rcases r with ⟨f | x, s⟩ <;> rcases r' with ⟨g | y', t⟩
  · cases hok
  · exact h.elim
  · exact h.elim
  · exact h

theorem Twin.weaken {a : Act σ α} {b : Act τ α} (h : Twin calm P a b Q E)
    (hP : ∀ s t, P' s t → P s t) (hQ : ∀ x y s t, Q x y s t → Q' x y s t)
    (hE : ∀ f s t, E f s t → E' f s t) : Twin calm P' a b Q' E' :=
  ⟨h.back, fun s t hP' hcalm => (h.meets s t (hP s t hP') hcalm).imp hQ hE⟩

/-- What does not depend on the worlds is as true afterwards as before. -/
theorem Twin.given {H : Prop} {a : Act σ α} {b : Act τ α} (h : Twin calm P a b Q E) :
    Twin calm (fun s t => H ∧ P s t) a b (fun x y s t => H ∧ Q x y s t) E := by
  refine ⟨h.back, ?_⟩
  rintro s t ⟨hH, hP⟩ hcalm
  exact (h.weaken (fun _ _ h => h) (fun _ _ _ _ hQ => ⟨hH, hQ⟩) fun _ _ _ h => h).meets s t hP hcalm

theorem Twin.exists {ι : Type} [Inhabited ι] {S : ι → σ → τ → Prop} {a : Act σ α} {b : Act τ α}
    (h : ∀ i, Twin calm (S i) a b Q E) : Twin calm (fun s t => ∃ i, S i s t) a b Q E := by
  refine ⟨(h default).back, ?_⟩
  rintro s t ⟨i, hS⟩ hcalm
  exact (h i).meets s t hS hcalm

theorem Twin.bind {a : Act σ α} {b : Act τ α} {f : α → Act σ β} {g : α → Act τ β}
    (ha : Twin calm P a b Q E) (hf : ∀ x y, Twin calm (Q x y) (f x) (g y) R E) :
    Twin calm P (a >>= f) (b >>= g) R E := by
  refine ⟨Moves.bind back_path ha.back fun x => (hf x x).back, fun s t hP hcalm => ?_⟩
  have hmeets := ha.meets s t hP
  rcases hrun : a.runFrom s with ⟨e | x, s'⟩ <;> rcases hrun' : b.runFrom t with ⟨e' | y, t'⟩ <;>
    rw [hrun, hrun'] at hmeets
  · rw [runFrom_bind_error hrun] at hcalm ⊢
    rw [runFrom_bind_error hrun']
    exact hmeets hcalm
  · rw [runFrom_bind_error hrun] at hcalm
    exact (hmeets hcalm).elim
  · rw [runFrom_bind_ok hrun] at hcalm
    exact (hmeets ((hf x x).back s' hcalm)).elim
  · rw [runFrom_bind_ok hrun] at hcalm ⊢
    rw [runFrom_bind_ok hrun']
    exact (hf x y).meets s' t' (hmeets ((hf x y).back s' hcalm)) hcalm

/-- A sequence that goes on from the same result. -/
theorem Twin.bind_eq {S : σ → τ → Prop} {a : Act σ α} {b : Act τ α} {f : α → Act σ β}
    {g : α → Act τ β} (ha : Twin calm P a b (fun x y s t => x = y ∧ S s t) E)
    (hf : ∀ x, Twin calm S (f x) (g x) R E) : Twin calm P (a >>= f) (b >>= g) R E := by
  refine Twin.bind ha fun x y => ⟨(hf x).back, ?_⟩
  rintro s t ⟨rfl, hS⟩ hcalm
  exact (hf x).meets s t hS hcalm

/-- The results and the failures of an act are followed up one by one. -/
theorem Twin.attempt_bind {a : Act σ α} {b : Act τ α} {f : Except Failure α → Act σ β}
    {g : Except Failure α → Act τ β} (ha : Twin calm P a b Q E)
    (hok : ∀ x y, Twin calm (Q x y) (f (.ok x)) (g (.ok y)) R E')
    (herror : ∀ e, Twin calm (E e) (f (.error e)) (g (.error e)) R E') :
    Twin calm P (attempt a >>= f) (attempt b >>= g) R E' := by
  refine ⟨Moves.bind back_path ha.back.attempt fun r => ?_, fun s t hP hcalm => ?_⟩
  · cases r with
    | ok x => exact (hok x x).back
    | error e => exact (herror e).back
  · rw [runFrom_bind_ok (runFrom_attempt a s)] at hcalm ⊢
    rw [runFrom_bind_ok (runFrom_attempt b t)]
    have hmeets := ha.meets s t hP
    rcases hrun : a.runFrom s with ⟨e | x, s'⟩ <;> rcases hrun' : b.runFrom t with ⟨e' | y, t'⟩ <;>
      rw [hrun, hrun'] at hmeets <;> rw [hrun] at hcalm
    · rcases hmeets ((herror e).back s' hcalm) with ⟨rfl, hE⟩
      exact (herror e).meets s' t' hE hcalm
    · exact (hmeets ((herror e).back s' hcalm)).elim
    · exact (hmeets ((hok x x).back s' hcalm)).elim
    · exact (hok x y).meets s' t' (hmeets ((hok x y).back s' hcalm)) hcalm

/-- What is done at last is done after results and failures alike. -/
theorem Twin.andFinally {a : Act σ α} {b : Act τ α} {last : Act σ Unit} {last' : Act τ Unit}
    (ha : Twin calm P a b Q E)
    (hok : ∀ x y, Twin calm (Q x y) last last' (fun _ _ => Q' x y) E')
    (herror : ∀ e, Twin calm (E e) last last' (fun _ _ => E' e) E') :
    Twin calm P (Act.andFinally a last) (Act.andFinally b last') Q' E' := by
  refine Twin.attempt_bind ha (fun x y => ?_) fun e => ?_
  · exact Twin.bind (hok x y) fun _ _ => Twin.pure fun _ _ h => h
  · exact Twin.bind (herror e) fun _ _ => Twin.throw fun _ _ h => h

end

end Act

open Act (Twin Moves Back)

/-- Two transports on which a client of one endpoint does the same. `L` says what two worlds
    have in common as long as the client has no socket, and while its sockets have the two
    names given. A client that could not close its socket forgets it, except where closing has
    failed otherwise than with an error of the system. -/
structure Transport.Twin {σ τ : Type} (t : Transport σ) (u : Transport τ) (calm : σ → Prop)
    (host : Text) (port : Port) (L : Option (SocketId × SocketId) → σ → τ → Prop) : Prop where
  note : ∀ o ids, Act.Twin calm (L ids) (t.note o) (u.note o) (fun _ _ => L ids) fun _ _ _ => False
  connect : ∀ host' port' span, Act.Twin calm (fun s s' => host' = host ∧ port' = port ∧ L none s s')
    (t.connect host' port' span) (u.connect host' port' span) (fun i j => L (some (i, j)))
    fun _ => L none
  setTimeout : ∀ i j span, Act.Twin calm (L (some (i, j))) (t.setTimeout i span)
    (u.setTimeout j span) (fun _ _ => L (some (i, j))) fun _ => L (some (i, j))
  send : ∀ i j data, Act.Twin calm (L (some (i, j))) (t.send i data) (u.send j data)
    (fun _ _ => L (some (i, j))) fun _ => L (some (i, j))
  /-- What is there to be read is taken by the operation that follows. -/
  arrivals : ∀ i j n s s', L (some (i, j)) s s' → calm ((t.consume i n).runFrom s).2 →
    t.arrivals i s = u.arrivals j s'
  consume : ∀ i j n, Act.Twin calm (L (some (i, j))) (t.consume i n) (u.consume j n)
    (fun _ _ => L (some (i, j))) fun _ => L (some (i, j))
  close : ∀ i j, Act.Twin calm (L (some (i, j))) (t.close i) (u.close j) (fun _ _ => L none)
    fun f s s' => L none s s' ∧ (f.system? = none → L (some (i, j)) s s')

namespace Client

section

variable {σ τ α β : Type} {calm : σ → Prop}

/-- A client with some socket or none. -/
def withSocket (c : Client) (socket : Option SocketId) : Client := { c with socket := socket }

/-- Two clients, in worlds that are as `P` says. -/
def InWorlds (c c' : Client) (P : σ → τ → Prop) (p : Client × σ) (q : Client × τ) : Prop :=
  p.1 = c ∧ q.1 = c' ∧ P p.2 q.2

/-- Two clients of one endpoint with the sockets that their worlds are compared by. -/
def Holding (c : Client) (L : Option (SocketId × SocketId) → σ → τ → Prop)
    (ids : Option (SocketId × SocketId)) : Client × σ → Client × τ → Prop :=
  InWorlds (c.withSocket (ids.map Prod.fst)) (c.withSocket (ids.map Prod.snd)) (L ids)

/-- Whatever sockets they have. -/
def Paired (c : Client) (L : Option (SocketId × SocketId) → σ → τ → Prop) (p : Client × σ)
    (q : Client × τ) : Prop := ∃ ids, Holding c L ids p q

/-- Whether the world of a client is calm. -/
def CalmWith (calm : σ → Prop) (p : Client × σ) : Prop := calm p.2

variable {P : σ → τ → Prop} {c c' : Client}

theorem onWorld_twin {a : Act σ α} {b : Act τ α} {Q : α → α → σ → τ → Prop}
    {E : Failure → σ → τ → Prop} (h : Act.Twin calm P a b Q E) :
    Act.Twin (CalmWith calm) (InWorlds c c' P) (onWorld a) (onWorld b)
      (fun x y => InWorlds c c' (Q x y)) fun f => InWorlds c c' (E f) := by
  refine ⟨fun p => h.back p.2, ?_⟩
  rintro ⟨_, s⟩ ⟨_, t⟩ ⟨rfl, rfl, hP⟩ hcalm
  have hmeets := h.meets s t hP hcalm
  rw [onWorld, onWorld, Act.runFrom_within, Act.runFrom_within]
  rcases hrun : a.runFrom s with ⟨f | x, s'⟩ <;> rcases hrun' : b.runFrom t with ⟨g | y, t'⟩ <;>
    rw [hrun, hrun'] at hmeets
  · exact ⟨hmeets.1, rfl, rfl, hmeets.2⟩
  · exact hmeets.elim
  · exact hmeets.elim
  · exact ⟨rfl, rfl, hmeets⟩

theorem setSocket_twin (socket socket' : Option SocketId) {E : Failure → Client × σ → Client × τ → Prop} :
    Act.Twin (CalmWith calm) (InWorlds c c' P) (setSocket socket : ClientAct σ Unit)
      (setSocket socket' : ClientAct τ Unit)
      (fun _ _ => InWorlds (c.withSocket socket) (c'.withSocket socket') P) E := by
  refine ⟨fun _ hcalm => hcalm, ?_⟩
  rintro ⟨_, s⟩ ⟨_, t⟩ ⟨rfl, rfl, hP⟩ _
  exact ⟨rfl, rfl, hP⟩

/-- What looks at its client first goes on with what it finds. -/
theorem get_twin {f : Client × σ → ClientAct σ β} {g : Client × τ → ClientAct τ β}
    {R : β → β → Client × σ → Client × τ → Prop} {E : Failure → Client × σ → Client × τ → Prop}
    (back : Moves (Along (Back calm)) (get >>= f))
    (h : ∀ s t, Act.Twin (CalmWith calm) (InWorlds c c' P) (f (c, s)) (g (c', t)) R E) :
    Act.Twin (CalmWith calm) (InWorlds c c' P) (get >>= f) (get >>= g) R E := by
  refine ⟨back, ?_⟩
  rintro ⟨_, s⟩ ⟨_, t⟩ ⟨rfl, rfl, hP⟩ hcalm
  rw [Act.runFrom_bind_ok (Act.runFrom_get _)] at hcalm ⊢
  rw [Act.runFrom_bind_ok (Act.runFrom_get _)]
  exact (h s t).meets _ _ ⟨rfl, rfl, hP⟩ hcalm

end

section

variable {σ τ : Type} {t : Transport σ} {u : Transport τ} {calm : σ → Prop} {host : Text}
  {port : Port} {L : Option (SocketId × SocketId) → σ → τ → Prop}

theorem moves_back (h : t.Twin u calm host port L) : t.Moves (Back calm) where
  path := Act.back_path
  note e _ := (h.note (.log e) none).back
  connect host port span := (h.connect host port span).back
  setTimeout id span := (h.setTimeout id id span).back
  send id data := (h.send id id data).back
  consume id n := (h.consume id id n).back
  close id := (h.close id id).back

theorem log_twin (h : t.Twin u calm host port L) (c : Client)
    (ids : Option (SocketId × SocketId)) (socket socket' : Option SocketId) (severity : Severity)
    {event : String} (hevent : outboundEvents.contains (Text.ofString event))
    (more : List LogField) :
    Act.Twin (CalmWith calm) (InWorlds (c.withSocket socket) (c.withSocket socket') (L ids))
      (log t severity event more) (log u severity event more)
      (fun _ _ => InWorlds (c.withSocket socket) (c.withSocket socket') (L ids))
      fun _ _ _ => False :=
  get_twin (log_moves (moves_back h) _ hevent _) fun _ _ =>
    (onWorld_twin (h.note _ ids)).weaken (fun _ _ h => h) (fun _ _ _ _ h => h) fun _ _ _ h => h.2.2

/-- A client that has a socket keeps it, and the other one has one, too. -/
theorem connect_twin (h : t.Twin u calm host port L) {c : Client} (hhost : c.host = host)
    (hport : c.port = port) :
    Act.Twin (CalmWith calm) (Paired c L) (connect t) (connect u)
      (fun _ _ p q => ∃ ids, Holding c L (some ids) p q) fun _ => Holding c L none := by
  refine Twin.exists fun ids => get_twin (connect_moves (moves_back h)) fun s s' => ?_
  cases ids with
  | some ids => exact Twin.pure fun _ _ h => ⟨ids, h⟩
  | none =>
      refine Twin.attempt_bind ((onWorld_twin (h.connect _ _ _)).weaken
        (fun _ _ hp => ⟨hp.1, hp.2.1, hhost, hport, hp.2.2⟩) (fun _ _ _ _ h => h) fun _ _ _ h => h)
        (fun i j => ?_) fun f => ?_
      · refine Twin.bind (setSocket_twin (some i) (some j)) fun _ _ => ?_
        exact (log_twin h c _ _ _ _ (by decide) _).weaken (fun _ _ h => h)
          (fun _ _ _ _ h => ⟨(i, j), h⟩) fun _ _ _ h => h.elim
      · cases f with
        | system e => exact Twin.throw fun _ _ h => h
        | _ => exact Twin.throw fun _ _ h => h

theorem close_twin (h : t.Twin u calm host port L) (c : Client)
    (ids : Option (SocketId × SocketId)) :
    Act.Twin (CalmWith calm) (Holding c L ids) (close t) (close u)
      (fun _ _ => Holding c L none) fun _ p q => L none p.2 q.2 ∧ Holding c L ids p q := by
  refine get_twin (close_moves (moves_back h)) fun s s' => ?_
  cases ids with
  | none => exact Twin.pure fun _ _ h => h
  | some ids =>
      rcases ids with ⟨i, j⟩
      -- The socket is forgotten whether or not closing it failed.
      have hend : Act.Twin (CalmWith calm)
          (InWorlds (c.withSocket (some i)) (c.withSocket (some j)) (L none))
          (do setSocket none; log t .debug "tcp_client_closed" [] : ClientAct σ Unit)
          (do setSocket none; log u .debug "tcp_client_closed" [] : ClientAct τ Unit)
          (fun _ _ => Holding c L none)
          fun _ p q => L none p.2 q.2 ∧ Holding c L (some (i, j)) p q :=
        Twin.bind (setSocket_twin none none) fun _ _ =>
          (log_twin h c none none none _ (by decide) _).weaken (fun _ _ h => h) (fun _ _ _ _ h => h)
            fun _ _ _ h => h.elim
      refine Twin.attempt_bind (onWorld_twin (h.close i j)) (fun _ _ => hend) fun f => ?_
      cases f with
      | system e =>
          refine Twin.bind ((log_twin h c none _ _ _ (by decide) _).weaken
            (fun _ _ h => ⟨h.1, h.2.1, h.2.2.1⟩)
            (fun _ _ _ _ h => h) fun _ _ _ h => h.elim) fun _ _ => hend
      | _ => exact Twin.throw fun _ _ h => ⟨h.2.2.1, h.1, h.2.1, h.2.2.2 rfl⟩

/-- What is there to be read is taken at once, so both clients find the same. -/
theorem read_twin {α : Type} (h : t.Twin u calm host port L) (rule : ReplyRule)
    {c c' : Client} {i j : SocketId} {k : ReplyEnd → ClientAct σ α} {g : ReplyEnd → ClientAct τ α}
    {R : α → α → Client × σ → Client × τ → Prop} {E : Failure → Client × σ → Client × τ → Prop}
    (hE : ∀ f p q, InWorlds c c' (L (some (i, j))) p q → E f p q)
    (hk : ∀ ending, Act.Twin (CalmWith calm) (InWorlds c c' (L (some (i, j)))) (k ending)
      (g ending) R E) :
    Act.Twin (CalmWith calm) (InWorlds c c' (L (some (i, j))))
      (get >>= fun p => onWorld (t.consume i (rule.read (t.arrivals i p.2)).2) >>= fun _ =>
        k (rule.read (t.arrivals i p.2)).1)
      (get >>= fun q => onWorld (u.consume j (rule.read (u.arrivals j q.2)).2) >>= fun _ =>
        g (rule.read (u.arrivals j q.2)).1) R E := by
  refine ⟨Moves.bind Act.back_path (Moves.get Act.back_path) fun p =>
    Moves.bind Act.back_path (onWorld_moves (h.consume i i _).back) fun _ => (hk _).back, ?_⟩
  rintro ⟨d, s⟩ ⟨d', s'⟩ ⟨rfl, rfl, hL⟩ hcalm
  rw [Act.runFrom_bind_ok (Act.runFrom_get _)] at hcalm ⊢
  rw [Act.runFrom_bind_ok (Act.runFrom_get _)]
  have harrivals := h.arrivals i j _ s s' hL (Act.calm_of_bind (fun _ => (hk _).back) hcalm)
  simp only [← harrivals]
  refine (Twin.bind ((onWorld_twin (h.consume i j _)).weaken (fun _ _ h => h) (fun _ _ _ _ h => h)
    fun _ _ _ h => hE _ _ _ h) fun _ _ => hk _).meets _ _ ⟨rfl, rfl, hL⟩ hcalm

theorem answer_twin (h : t.Twin u calm host port L) (c : Client)
    (ids : Option (SocketId × SocketId)) (ending : ReplyEnd) :
    Act.Twin (CalmWith calm) (Holding c L ids) (answer t c ending) (answer u c ending)
      (fun r r' p q => r = r' ∧ Holding c L ids p q) fun _ => Holding c L ids := by
  cases ending with
  | complete r => exact Twin.pure fun _ _ h => ⟨rfl, h⟩
  | finished r =>
      have hend : Act.Twin (CalmWith calm) (Holding c L ids)
          (do log t .debug "tcp_client_partial_response" [.nat "size" r.size]; return r)
          (do log u .debug "tcp_client_partial_response" [.nat "size" r.size]; return r)
          (fun r r' p q => r = r' ∧ Holding c L ids p q) fun _ => Holding c L ids :=
        Twin.bind ((log_twin h c ids _ _ _ (by decide) _).weaken (fun _ _ h => h)
          (fun _ _ _ _ h => h) fun _ _ _ h => h.elim) fun _ _ => Twin.pure fun _ _ h => ⟨rfl, h⟩
      rw [answer, answer]
      split
      · exact Twin.bind (Twin.throw fun _ _ h => h) fun _ _ => hend
      · exact hend
  | unexpected r => exact Twin.throw fun _ _ h => h
  | fault r f =>
      cases f with
      | system e => exact Twin.throw fun _ _ h => h
      | _ => exact Twin.throw fun _ _ h => h

theorem readReply_twin (h : t.Twin u calm host port L) (c : Client) (i j : SocketId)
    (span : Option Seconds) :
    Act.Twin (CalmWith calm) (Holding c L (some (i, j))) (readReply t span) (readReply u span)
      (fun r r' p q => r = r' ∧ Holding c L (some (i, j)) p q)
      fun _ => Holding c L (some (i, j)) := by
  refine get_twin (readReply_moves (moves_back h) span) fun s s' => ?_
  refine Twin.bind (onWorld_twin (h.setTimeout i j _)) fun _ _ => ?_
  exact read_twin h c.rule (k := answer t c) (g := answer u c) (fun _ _ _ h => h)
    (answer_twin h c (some (i, j)))

theorem transmit_twin (h : t.Twin u calm host port L) (c d : Client) (i j : SocketId)
    (data : Bytes) (wait : Bool) (span : Option Seconds) :
    Act.Twin (CalmWith calm) (Holding c L (some (i, j))) (transmit t d i data wait span)
      (transmit u d j data wait span) (fun r r' p q => r = r' ∧ Paired c L p q)
      fun _ => Paired c L := by
  have hend : Act.Twin (CalmWith calm) (Holding c L (some (i, j)))
      (if wait then (do return some (← readReply t span)) else return none)
      (if wait then (do return some (← readReply u span)) else return none)
      (fun r r' p q => r = r' ∧ Paired c L p q) fun _ => Paired c L := by
    split
    · exact Twin.bind_eq ((readReply_twin h c i j span).weaken (fun _ _ h => h)
        (fun _ _ _ _ h => h) fun _ _ _ h => ⟨_, h⟩) fun r => Twin.pure fun _ _ h => ⟨rfl, _, h⟩
    · exact Twin.pure fun _ _ h => ⟨rfl, _, h⟩
  refine Twin.attempt_bind (onWorld_twin (h.send i j data)) (fun _ _ => hend) fun f => ?_
  cases f with
  | system e =>
      refine Twin.bind ((close_twin h c (some (i, j))).weaken (fun _ _ h => h) (fun _ _ _ _ h => h)
        fun _ _ _ h => ⟨_, h.2⟩) fun _ _ => ?_
      exact Twin.bind (Twin.throw fun _ _ h => ⟨_, h⟩) fun _ _ => hend
  | _ => exact Twin.bind (Twin.throw fun _ _ h => ⟨_, h⟩) fun _ _ => hend

theorem sendBytes_twin (h : t.Twin u calm host port L) {c : Client} (hhost : c.host = host)
    (hport : c.port = port) (data : Bytes) (wait : Bool) (span : Option Seconds) :
    Act.Twin (CalmWith calm) (Paired c L) (sendBytes t data wait span)
      (sendBytes u data wait span) (fun r r' p q => r = r' ∧ Paired c L p q)
      fun _ => Paired c L := by
  refine Twin.bind ((connect_twin h hhost hport).weaken (fun _ _ h => h) (fun _ _ _ _ h => h)
    fun _ _ _ h => ⟨none, h⟩) fun _ _ => Twin.exists fun ids => ?_
  refine Twin.bind ((log_twin h c (some ids) _ _ _ (by decide) _).weaken (fun _ _ h => h)
    (fun _ _ _ _ h => h) fun _ _ _ h => h.elim) fun _ _ => ?_
  refine get_twin (Moves.bind Act.back_path (Moves.get Act.back_path) fun p => ?_) fun s s' => ?_
  · exact (transmit_twin h c p.1 (p.1.socket.getD 0) (p.1.socket.getD 0) data wait span).back
  · exact transmit_twin h c c ids.1 ids.2 data wait span

end

end Client

namespace Dispatcher

open Client

variable {σ τ : Type} {t : Transport σ} {u : Transport τ} {calm : σ → Prop}
  {L : Option (SocketId × SocketId) → σ → τ → Prop} {d : Dispatcher} {delivery : Delivery}

theorem exchange_twin (h : t.Twin u calm delivery.host delivery.port L) :
    Act.Twin (CalmWith calm) (Holding (d.client delivery) L none) (exchange t d delivery)
      (exchange u d delivery) (fun r r' p q => r = r' ∧ Paired (d.client delivery) L p q)
      fun _ => Paired (d.client delivery) L := by
  unfold exchange
  split
  · exact Twin.throw fun _ _ h => ⟨none, h⟩
  · refine Twin.bind_eq ((sendBytes_twin h rfl rfl _ _ _).weaken (fun _ _ h => ⟨none, h⟩)
      (fun _ _ _ _ h => h) fun _ _ _ h => h) fun r => ?_
    split
    · exact Twin.pure fun _ _ h => ⟨rfl, h⟩
    · exact Twin.throw fun _ _ h => h

theorem outcomeOrRecord_twin (h : t.Twin u calm delivery.host delivery.port L) :
    Act.Twin (CalmWith calm) (Holding (d.client delivery) L none) (outcomeOrRecord t d delivery)
      (outcomeOrRecord u d delivery) (fun r r' p q => r = r' ∧ Paired (d.client delivery) L p q)
      fun _ => Paired (d.client delivery) L := by
  refine Twin.attempt_bind (exchange_twin h) (fun x y => Twin.pure ?_) fun f => ?_
  · rintro _ _ ⟨rfl, h⟩
    exact ⟨rfl, h⟩
  · dsimp only
    split
    · refine Twin.exists fun ids => Twin.bind ((log_twin h _ ids _ _ _ (by decide) _).weaken
        (fun _ _ h => h) (fun _ _ _ _ h => h) fun _ _ _ h => h.elim) fun _ _ => ?_
      exact Twin.pure fun _ _ h => ⟨rfl, ids, h⟩
    · exact Twin.throw fun _ _ h => h

theorem deliver_twin (h : t.Twin u calm delivery.host delivery.port L) :
    Act.Twin (CalmWith calm) (Holding (d.client delivery) L none) (deliver t d delivery)
      (deliver u d delivery) (fun r r' p q => r = r' ∧ L none p.2 q.2) fun _ p q => L none p.2 q.2 := by
  have hlast : Act.Twin (CalmWith calm) (Paired (d.client delivery) L) (close t) (close u)
      (fun _ _ => Holding (d.client delivery) L none) fun _ p q => L none p.2 q.2 :=
    Twin.exists fun ids => (close_twin h _ ids).weaken (fun _ _ h => h) (fun _ _ _ _ h => h)
      fun _ _ _ h => h.1
  refine Twin.bind_eq (Twin.andFinally (outcomeOrRecord_twin h) (fun x y => hlast.given)
    fun f => hlast.weaken (fun _ _ h => h) (fun _ _ _ _ h => h.2.2) fun _ _ _ h => h) fun x => ?_
  cases x with
  | inr record => exact Twin.pure fun _ _ h => ⟨rfl, h.2.2⟩
  | inl outcome =>
      exact Twin.bind ((log_twin h _ none _ _ _ (by decide) _).weaken (fun _ _ h => h)
        (fun _ _ _ _ h => h) fun _ _ _ h => h.elim) fun _ _ => Twin.pure fun _ _ h => ⟨rfl, h.2.2⟩

theorem dispatch_runFrom {σ : Type} (t : Transport σ) (d : Dispatcher) (delivery : Delivery)
    (s : σ) : (dispatch t d delivery).runFrom s =
      (((deliver t d delivery).runFrom (d.client delivery, s)).1,
        ((deliver t d delivery).runFrom (d.client delivery, s)).2.2) := rfl

theorem dispatch_twin (h : t.Twin u calm delivery.host delivery.port L) :
    Act.Twin calm (L none) (dispatch t d delivery) (dispatch u d delivery)
      (fun r r' s s' => r = r' ∧ L none s s') fun _ => L none := by
  have hdeliver : Act.Twin _ _ (deliver t d delivery) (deliver u d delivery) _ _ := deliver_twin h
  refine ⟨fun s => hdeliver.back (d.client delivery, s), fun s s' hL hcalm => ?_⟩
  have hmeets := hdeliver.meets (d.client delivery, s) (d.client delivery, s') ⟨rfl, rfl, hL⟩ hcalm
  rw [dispatch_runFrom, dispatch_runFrom]
  rcases hrun : (deliver t d delivery).runFrom (d.client delivery, s) with ⟨_ | _, _, _⟩ <;>
    rcases hrun' : (deliver u d delivery).runFrom (d.client delivery, s') with ⟨_ | _, _, _⟩ <;>
    rw [hrun, hrun'] at hmeets <;> exact hmeets

/-- A delivery gives the same record in both worlds, whatever goes wrong with it, and when it
    has been made its clients have no sockets any more. -/
theorem dispatchSafely_twin (h : t.Twin u calm delivery.host delivery.port L) :
    Act.Twin calm (L none) (dispatchSafely t d delivery) (dispatchSafely u d delivery)
      (fun r r' s s' => r = r' ∧ L none s s') fun _ _ _ => False := by
  refine Twin.attempt_bind (dispatch_twin h) (fun x y => Twin.pure ?_) fun f => ?_
  · rintro _ _ ⟨rfl, h⟩
    exact ⟨rfl, h⟩
  · exact Twin.bind (h.note _ none) fun _ _ => Twin.pure fun _ _ h => ⟨rfl, h⟩

/-- What two worlds have in common before a delivery they have in common after it, when its
    records are the same. -/
theorem dispatchSafely_runs (d : Dispatcher) (h : t.Twin u calm delivery.host delivery.port L) {s : σ} {s' : τ}
    (hL : L none s s') (hcalm : calm ((dispatchSafely t d delivery).runFrom s).2) :
    ∃ record v v', (dispatchSafely t d delivery).runFrom s = (.ok record, v) ∧
      (dispatchSafely u d delivery).runFrom s' = (.ok record, v') ∧ L none v v' := by
  have hmeets := (dispatchSafely_twin h).meets s s' hL hcalm
  rcases hrun : (dispatchSafely t d delivery).runFrom s with ⟨f | record, v⟩ <;>
    rcases hrun' : (dispatchSafely u d delivery).runFrom s' with ⟨g | record', v'⟩ <;>
    rw [hrun, hrun'] at hmeets
  · exact hmeets.2.elim
  · exact hmeets.elim
  · exact hmeets.elim
  · rcases hmeets with ⟨rfl, hL'⟩
    exact ⟨record, v, v', rfl, rfl, hL'⟩

end Dispatcher

end MockHost
