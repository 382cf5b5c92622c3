import Mathlib.Data.List.Nodup
import MockHost.Proofs.Dispatch.Custody

/-!
# Keeping Account of Sockets

A thread that opens one socket at a time can keep account of them in one list: what it has opened
is what it has closed, in this order, and then the socket that it holds, if there is one. That is
known of its calls if each of them is one that the socket held at the time allows: a socket is
opened under a new name if none is held, and it is used and closed while it is. How many sockets
are left open can be read off the account, and that none is touched once it has been closed.

The worlds here fail with errors of the system and otherwise do what they are asked to. After an
error of the system a client knows what has become of its socket, and only then.

## Main definitions

* `SocketCall.Owns`: Calls of a thread that opens one socket at a time.
* `SocketCall.Balanced`: No socket is left open but the one that is held, and none is touched when
  it is closed.
* `Act.SystemErrorsOnly`, `Transport.SystemErrorsOnly`: Sockets that fail with errors of the system
  only.
* `Account`: A thread that keeps account, and the world it is in.

## Theorems

* `SocketCall.Owns.opened_eq`, `SocketCall.Owns.balanced`: What the account says.
* `Account.call`, `Account.opens`: One more call.
* `Transport.SystemErrorsOnly.connect_accounted`, `Transport.SystemErrorsOnly.close_accounted`: What
  the calls on sockets come to.
-/

namespace MockHost

namespace SocketCall

variable {σ : Type}

/-- The calls of a thread that opens one socket at a time, and the socket that it holds. -/
inductive Owns : List (SocketCall σ) → Option SocketId → Prop where
  | nothing : Owns [] none
  | aside {calls held c} (rest : Owns calls held) (hc : c.effect = .none) :
      Owns (calls ++ [c]) held
  | opens {calls id c} (rest : Owns calls none) (hc : c.effect = .opens id)
      (hnew : id ∉ opened calls) : Owns (calls ++ [c]) (some id)
  | uses {calls id c} (rest : Owns calls (some id)) (hc : c.effect = .uses id) :
      Owns (calls ++ [c]) (some id)
  | closes {calls id c} (rest : Owns calls (some id)) (hc : c.effect = .closes id) :
      Owns (calls ++ [c]) none

/-- Every socket that was opened is closed again, but for one if a socket is held. None is opened
    or closed twice, and none is used or closed before it was opened or after it was closed. -/
structure Balanced (calls : List (SocketCall σ)) (held : Bool) : Prop where
  count : (opened calls).length = (closed calls).length + if held then 1 else 0
  opened_once : (opened calls).Nodup
  closed_once : (closed calls).Nodup
  alive : ∀ pre c, pre ++ [c] <+: calls → ∀ id, c.effect.concerned? = some id →
    id ∈ opened pre ∧ id ∉ closed pre

namespace Owns

variable {calls : List (SocketCall σ)} {held : Option SocketId}

/-- The account: what was opened is closed, and then there is the socket that is held. -/
theorem opened_eq (h : Owns calls held) : opened calls = closed calls ++ held.toList := by
  induction h with
  | nothing => rfl
  | aside _ hc ih | opens _ hc _ ih | uses _ hc ih | closes _ hc ih =>
      simp [opened_concat, closed_concat, hc, ih, Effect.opened?, Effect.closed?]

theorem opened_nodup (h : Owns calls held) : (opened calls).Nodup := by
  induction h with
  | nothing => exact List.nodup_nil
  | opens _ hc hnew ih =>
      rw [opened_concat, hc]
      exact List.Nodup.append ih (List.nodup_singleton _) (List.disjoint_singleton.mpr hnew)
  | aside _ hc ih | uses _ hc ih | closes _ hc ih =>
      simpa [opened_concat, hc, Effect.opened?] using ih

/-- The socket that is held has been opened, and not been closed since. -/
theorem held_alive {id : SocketId} (h : Owns calls (some id)) :
    id ∈ opened calls ∧ id ∉ closed calls := by
  have hnodup := h.opened_nodup
  rw [h.opened_eq] at hnodup ⊢
  refine ⟨List.mem_append_right _ (List.mem_singleton.mpr rfl), fun hclosed => ?_⟩
  exact (List.nodup_append.mp hnodup).2.2 id hclosed id (List.mem_singleton.mpr rfl) rfl

theorem alive (h : Owns calls held) {pre : List (SocketCall σ)} {c : SocketCall σ}
    (hpre : pre ++ [c] <+: calls) {id : SocketId} (hid : c.effect.concerned? = some id) :
    id ∈ opened pre ∧ id ∉ closed pre := by
  -- The call is the last one, or one of those before it.
  induction h with
  | nothing =>
      exact (List.append_ne_nil_of_right_ne_nil pre (List.cons_ne_nil c [])
        (List.prefix_nil.mp hpre)).elim
  | aside rest hc ih | opens rest hc _ ih =>
      rcases prefix_concat hpre with ⟨rfl, rfl⟩ | hpre
      · rw [hc] at hid
        injection hid
      · exact ih hpre
  | uses rest hc ih | closes rest hc ih =>
      rcases prefix_concat hpre with ⟨rfl, rfl⟩ | hpre
      · rw [hc] at hid
        injection hid with hid
        exact hid ▸ rest.held_alive
      · exact ih hpre

theorem balanced (h : Owns calls held) : Balanced calls held.isSome where
  count := by
    rw [h.opened_eq, List.length_append]
    cases held <;> rfl
  opened_once := h.opened_nodup
  closed_once := by
    have hnodup := h.opened_nodup
    rw [h.opened_eq] at hnodup
    exact (List.nodup_append.mp hnodup).1
  alive _ _ hpre _ hid := h.alive hpre hid

end Owns

end SocketCall

/-! ### Sockets that fail with errors of the system only -/

/-- An act that started in the world `w` has failed with an error of the system, if it has failed.
    It has left a world that is `fine`, in which no `names` have been lost. -/
structure Act.SystemErrorEnd {σ α : Type} (fine : σ → Prop) (names : σ → Nat) (w : σ)
    (r : Except Failure α × σ) : Prop where
  stays : fine r.2
  keeps : names w ≤ names r.2
  system : ∀ f, r.1 = .error f → ∃ e, f = .system e

/-- In a world that is `fine` the act ends like this. -/
def Act.SystemErrorsOnly {σ α : Type} (fine : σ → Prop) (names : σ → Nat) (a : Act σ α) : Prop :=
  ∀ w, fine w → Act.SystemErrorEnd fine names w (a.runFrom w)

theorem Act.SystemErrorsOnly.ended {σ : Type} {fine : σ → Prop} {names : σ → Nat} {a : Act σ Unit}
    {w : σ} (ha : Act.SystemErrorsOnly fine names a) (hw : fine w) :
    (a.runFrom w).1 = .ok () ∨ ∃ e, (a.runFrom w).1 = .error (.system e) := by
  rcases hres : (a.runFrom w).1 with f | _
  · rcases (ha w hw).system f hres with ⟨e, rfl⟩
    exact .inr ⟨e, rfl⟩
  · exact .inl rfl

open Act (SystemErrorsOnly)

/-- Every call on the sockets of a world fails with errors of the system only, and only connecting,
    sending, reading and closing fail. Sockets are named one after another. -/
structure Transport.SystemErrorsOnly {σ : Type} (fine : σ → Prop) (names : σ → Nat)
    (t : Transport σ) : Prop where
  note : ∀ o, Act.SystemErrorsOnly fine names (t.note o)
  noted : ∀ o w, ((t.note o).runFrom w).1 = .ok ()
  connect : ∀ host port span, Act.SystemErrorsOnly fine names (t.connect host port span)
  named : ∀ host port span w id, fine w → ((t.connect host port span).runFrom w).1 = .ok id →
    id = names w ∧ names w < names ((t.connect host port span).runFrom w).2
  setTimeout : ∀ id span, Act.SystemErrorsOnly fine names (t.setTimeout id span)
  timed : ∀ id span w, ((t.setTimeout id span).runFrom w).1 = .ok ()
  send : ∀ id data, Act.SystemErrorsOnly fine names (t.send id data)
  arrivals : ∀ id w f, fine w → .fault f ∈ t.arrivals id w → ∃ e, f = .system e
  consume : ∀ id n, Act.SystemErrorsOnly fine names (t.consume id n)
  consumed : ∀ id n w, ((t.consume id n).runFrom w).1 = .ok ()
  close : ∀ id, Act.SystemErrorsOnly fine names (t.close id)

/-- A thread that nobody disturbs and that keeps account: it started in the world `origin`, has
    opened the sockets `ids` and holds one of them, or none. -/
structure Account {σ : Type} (fine : σ → Prop) (names : σ → Nat) (origin : σ)
    (ids : List SocketId) (held : Option SocketId) (s : Among σ) : Prop where
  finds : s.finds = SocketCall.left origin
  owns : SocketCall.Owns s.calls held
  opened : SocketCall.opened s.calls = ids
  fine : fine s.world
  named : ∀ id ∈ ids, id < names s.world

namespace Account

open SocketCall (Effect Owns)

variable {σ α : Type} {fine : σ → Prop} {names : σ → Nat} {origin : σ} {ids : List SocketId}
  {held held' : Option SocketId} {s : Among σ} {a : Act σ α}

theorem opening {w : σ} (hw : fine w) :
    Account fine names w [] none ⟨SocketCall.left w, []⟩ where
  finds := rfl
  owns := .nothing
  opened := rfl
  fine := hw
  named _ h := absurd h List.not_mem_nil

/-- The world that a thread finds next is the one that its last call has left. -/
theorem world_call (h : Account fine names origin ids held s)
    (effect : Except Failure α → Effect) :
    ((Among.call effect a).runFrom s).2.world = (a.runFrom s.world).2 := by
  rw [Among.call_runFrom, Among.world]
  dsimp only
  rw [h.finds, SocketCall.left_concat]

/-- A call that opens no socket. -/
theorem call (h : Account fine names origin ids held s) (ha : SystemErrorsOnly fine names a)
    (effect : Except Failure α → Effect) (hopened : (effect (a.runFrom s.world).1).opened? = none)
    (howns : ∀ c, c.effect = effect (a.runFrom s.world).1 → Owns (s.calls ++ [c]) held') :
    ∃ s', (Among.call effect a).runFrom s = ((a.runFrom s.world).1, s') ∧
      Account fine names origin ids held' s' := by
  refine ⟨((Among.call effect a).runFrom s).2, rfl, h.finds, howns _ rfl, ?_, ?_, fun id hid => ?_⟩
  · rw [Among.call_runFrom, SocketCall.opened_concat, h.opened, hopened]
    exact List.append_nil _
  · rw [h.world_call]
    exact (ha _ h.fine).stays
  · rw [h.world_call]
    exact Nat.lt_of_lt_of_le (h.named id hid) (ha _ h.fine).keeps

/-- A call on no socket. -/
theorem aside (h : Account fine names origin ids held s) (ha : SystemErrorsOnly fine names a)
    (effect : Except Failure α → Effect) (hnone : effect (a.runFrom s.world).1 = .none) :
    ∃ s', (Among.call effect a).runFrom s = ((a.runFrom s.world).1, s') ∧
      Account fine names origin ids held s' :=
  h.call ha effect (by rw [hnone]; rfl) fun _ hc => .aside h.owns (hc.trans hnone)

/-- A call on the socket that is held. -/
theorem uses {id : SocketId} (h : Account fine names origin ids (some id) s)
    (ha : SystemErrorsOnly fine names a) :
    ∃ s', (Among.call (fun _ => .uses id) a).runFrom s = ((a.runFrom s.world).1, s') ∧
      Account fine names origin ids (some id) s' :=
  h.call ha _ rfl fun _ hc => .uses h.owns hc

/-- The call that closes it. -/
theorem closes {id : SocketId} (h : Account fine names origin ids (some id) s)
    (ha : SystemErrorsOnly fine names a) :
    ∃ s', (Among.call (fun _ => .closes id) a).runFrom s = ((a.runFrom s.world).1, s') ∧
      Account fine names origin ids none s' :=
  h.call ha _ rfl fun _ hc => .closes h.owns hc

/-- The call that opens a socket, under a name that is new. -/
theorem opens {id : SocketId} {a : Act σ SocketId} (h : Account fine names origin ids none s)
    (ha : SystemErrorsOnly fine names a) (hok : (a.runFrom s.world).1 = .ok id)
    (hnamed : id = names s.world ∧ names s.world < names (a.runFrom s.world).2) :
    id ∉ ids ∧ ∃ s', (Among.call Among.opening a).runFrom s = (.ok id, s') ∧
      Account fine names origin (ids ++ [id]) (some id) s' := by
  have hnew : id ∉ ids := fun hmem =>
    absurd (h.named id hmem) (hnamed.1 ▸ Nat.lt_irrefl _)
  have heffect : Among.opening (a.runFrom s.world).1 = .opens id := by rw [hok]; rfl
  refine ⟨hnew, ((Among.call Among.opening a).runFrom s).2, Prod.ext hok rfl, h.finds,
    .opens h.owns heffect (h.opened.symm ▸ hnew), ?_, ?_, fun id' hid' => ?_⟩
  · rw [Among.call_runFrom, SocketCall.opened_concat, h.opened, heffect]
    rfl
  · rw [h.world_call]
    exact (ha _ h.fine).stays
  · rw [h.world_call]
    rcases List.mem_append.mp hid' with hold | hid'
    · exact Nat.lt_trans (h.named id' hold) hnamed.2
    · rw [List.mem_singleton.mp hid', hnamed.1]
      exact hnamed.2

end Account

/-! ### What the calls come to -/

namespace Transport.SystemErrorsOnly

variable {σ : Type} {t : Transport σ} {fine : σ → Prop} {names : σ → Nat} {origin : σ}
  {ids : List SocketId} {held : Option SocketId} {s : Among σ} {id : SocketId}

theorem note_accounted (ht : t.SystemErrorsOnly fine names)
    (h : Account fine names origin ids held s) (o : Occurrence) :
    ∃ s', (t.among.note o).runFrom s = (.ok (), s') ∧ Account fine names origin ids held s' :=
  ht.noted o s.world ▸ h.aside (ht.note o) (fun _ => .none) rfl

/-- A socket is opened, or an error of the system says why it is not. -/
theorem connect_accounted (ht : t.SystemErrorsOnly fine names)
    (h : Account fine names origin ids none s) (host : Text) (port : Port) (span : Seconds) :
    (∃ id s', ((t.connect host port span).runFrom s.world).1 = .ok id ∧ id ∉ ids ∧
      (t.among.connect host port span).runFrom s = (.ok id, s') ∧
      Account fine names origin (ids ++ [id]) (some id) s') ∨
    ∃ e s', ((t.connect host port span).runFrom s.world).1 = .error (.system e) ∧
      (t.among.connect host port span).runFrom s = (.error (.system e), s') ∧
      Account fine names origin ids none s' := by
  rcases hres : ((t.connect host port span).runFrom s.world).1 with f | id
  · rcases (ht.connect host port span _ h.fine).system f hres with ⟨e, rfl⟩
    rcases h.aside (ht.connect host port span) Among.opening (by rw [hres]; rfl) with
      ⟨s', hcall, h'⟩
    exact .inr ⟨e, s', rfl, hres ▸ hcall, h'⟩
  · rcases h.opens (ht.connect host port span) hres (ht.named _ _ _ _ _ h.fine hres) with
      ⟨hnew, s', hcall, h'⟩
    exact .inl ⟨id, s', rfl, hnew, hcall, h'⟩

theorem setTimeout_accounted (ht : t.SystemErrorsOnly fine names)
    (h : Account fine names origin ids (some id) s) (span : Seconds) :
    ∃ s', (t.among.setTimeout id span).runFrom s = (.ok (), s') ∧
      Account fine names origin ids (some id) s' :=
  ht.timed id span s.world ▸ h.uses (ht.setTimeout id span)

theorem consume_accounted (ht : t.SystemErrorsOnly fine names)
    (h : Account fine names origin ids (some id) s) (n : Nat) :
    ∃ s', (t.among.consume id n).runFrom s = (.ok (), s') ∧
      Account fine names origin ids (some id) s' :=
  ht.consumed id n s.world ▸ h.uses (ht.consume id n)

theorem send_accounted (ht : t.SystemErrorsOnly fine names)
    (h : Account fine names origin ids (some id) s) (data : Bytes) :
    ∃ res s', (t.among.send id data).runFrom s = (res, s') ∧
      (res = .ok () ∨ ∃ e, res = .error (.system e)) ∧
      Account fine names origin ids (some id) s' := by
  rcases h.uses (ht.send id data) with ⟨s', hcall, h'⟩
  exact ⟨_, s', hcall, (ht.send id data).ended h.fine, h'⟩

/-- A socket whose closing fails is closed nevertheless. -/
theorem close_accounted (ht : t.SystemErrorsOnly fine names)
    (h : Account fine names origin ids (some id) s) :
    ∃ res s', (t.among.close id).runFrom s = (res, s') ∧
      (res = .ok () ∨ ∃ e, res = .error (.system e)) ∧ Account fine names origin ids none s' := by
  rcases h.closes (ht.close id) with ⟨s', hcall, h'⟩
  exact ⟨_, s', hcall, (ht.close id).ended h.fine, h'⟩

end Transport.SystemErrorsOnly

end MockHost
