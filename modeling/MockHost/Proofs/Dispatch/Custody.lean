import MockHost.Proofs.Dispatch.SideBySide

/-!
# Whose Sockets

A thread that makes a delivery works with sockets that it has opened itself, and closes
every socket that it opens. That does not depend on what the other threads do meanwhile:
whatever world is found for a call, the name of the socket comes from the client, and the
client has it from a call of its own.

The argument compares the thread with itself. What its two copies have in common is the
list of the calls made so far, and the invariant is about this list and the socket that
the client holds.

## Main definitions

* `SocketCall.opened`, `SocketCall.closed`: The sockets that calls have opened and closed.
* `SocketCall.Disciplined`: Calls on sockets that were opened by earlier ones.
* `SocketCall.Settled`: Every socket that has been opened is closed or still held.

## Theorems

* `SideBySide.custody`: Threads that make deliveries are disciplined, and close every socket
  that they open.
-/

namespace MockHost

open Act (Meets)

namespace SocketCall

variable {σ : Type} {M : SocketCall σ → Prop} {calls : List (SocketCall σ)} {c : SocketCall σ}

/-- The socket that has been opened. -/
def Effect.opened? : Effect → Option SocketId
  | .opens id => some id
  | _ => Option.none

/-- The socket that has been closed. -/
def Effect.closed? : Effect → Option SocketId
  | .closes id => some id
  | _ => Option.none

/-- The socket that has been there before. -/
def Effect.concerned? : Effect → Option SocketId
  | .uses id | .closes id => some id
  | _ => Option.none

/-- The sockets that some calls have opened. -/
def opened (calls : List (SocketCall σ)) : List SocketId := calls.filterMap (·.effect.opened?)

/-- The sockets that some calls have closed. -/
def closed (calls : List (SocketCall σ)) : List SocketId := calls.filterMap (·.effect.closed?)

theorem opened_concat : opened (calls ++ [c]) = opened calls ++ c.effect.opened?.toList := by
  rw [opened, List.filterMap_append, List.filterMap_cons]
  cases c.effect.opened? <;> rfl

theorem closed_concat : closed (calls ++ [c]) = closed calls ++ c.effect.closed?.toList := by
  rw [closed, List.filterMap_append, List.filterMap_cons]
  cases c.effect.closed? <;> rfl

/-- A call with those before it: it is the last one, or it was there before the last one. -/
theorem prefix_concat {pre : List (SocketCall σ)} {c' : SocketCall σ}
    (h : pre ++ [c'] <+: calls ++ [c]) : (pre = calls ∧ c' = c) ∨ pre ++ [c'] <+: calls := by
  rcases List.prefix_concat_iff.mp h with heq | hpre
  · rcases List.append_inj' heq rfl with ⟨hcalls, hc⟩
    injection hc with hc
    exact .inl ⟨hcalls, hc⟩
  · exact .inr hpre

/-- Calls that are all as `M` says, on sockets that were opened by earlier ones. -/
structure Disciplined (M : SocketCall σ → Prop) (calls : List (SocketCall σ)) : Prop where
  each : ∀ c ∈ calls, M c
  owns : ∀ pre c, pre ++ [c] <+: calls → ∀ id, c.effect.concerned? = some id → id ∈ opened pre

theorem Disciplined.nil : Disciplined M [] where
  each _ h := (List.not_mem_nil h).elim
  owns pre c h := by
    rw [List.prefix_nil] at h
    exact (List.append_ne_nil_of_right_ne_nil pre (List.cons_ne_nil c []) h).elim

theorem Disciplined.concat (h : Disciplined M calls) (hc : M c)
    (howns : ∀ id, c.effect.concerned? = some id → id ∈ opened calls) :
    Disciplined M (calls ++ [c]) where
  each c' hc' := by
    rcases List.mem_append.mp hc' with hc' | hc'
    · exact h.each c' hc'
    · exact List.mem_singleton.mp hc' ▸ hc
  owns pre c' hpre := by
    rcases prefix_concat hpre with ⟨rfl, rfl⟩ | hpre
    · exact howns
    · exact h.owns pre c' hpre

theorem Disciplined.of_concat (h : Disciplined M (calls ++ [c])) : Disciplined M calls where
  each c' hc' := h.each c' (List.mem_append_left [c] hc')
  owns pre c' hpre := h.owns pre c' (hpre.trans (List.prefix_append calls [c]))

/-- Every socket that has been opened is closed, or is the one that is held. -/
def Settled (held : Option SocketId) (calls : List (SocketCall σ)) : Prop :=
  ∀ id ∈ opened calls, id ∈ closed calls ∨ held = some id

theorem Settled.concat {held held' : Option SocketId} (h : Settled held calls)
    (hopened : ∀ id, c.effect.opened? = some id → held' = some id)
    (hheld : ∀ id, held = some id → c.effect.closed? = some id ∨ held' = some id) :
    Settled held' (calls ++ [c]) := by
  intro id hid
  rw [opened_concat, List.mem_append, Option.mem_toList] at hid
  rw [closed_concat, List.mem_append, Option.mem_toList]
  rcases hid with hid | hid
  · rcases h id hid with hclosed | hheld'
    · exact .inl (.inl hclosed)
    · rcases hheld id hheld' with hclosed | hstill
      · exact .inl (.inr hclosed)
      · exact .inr hstill
  · exact .inr (hopened id hid)

end SocketCall

/-- The calls that a client of an endpoint makes over a transport are all as `M` says. -/
structure Transport.Calls {σ : Type} (t : Transport σ) (host : Text) (port : Port)
    (M : SocketCall σ → Prop) : Prop where
  note : ∀ o w, M ⟨w, ((t.note o).runFrom w).2, .none⟩
  connect : ∀ span w, M ⟨w, ((t.connect host port span).runFrom w).2,
    Among.opening ((t.connect host port span).runFrom w).1⟩
  setTimeout : ∀ id span w, M ⟨w, ((t.setTimeout id span).runFrom w).2, .uses id⟩
  send : ∀ id data w, M ⟨w, ((t.send id data).runFrom w).2, .uses id⟩
  consume : ∀ id n w, M ⟨w, ((t.consume id n).runFrom w).2, .uses id⟩
  close : ∀ id w, M ⟨w, ((t.close id).runFrom w).2, .closes id⟩

namespace SideBySide

open SocketCall

variable {σ : Type} {t : Transport σ} {d : Dispatcher} {host : Text} {port : Port}
  {M : SocketCall σ → Prop}

/-- Two copies of a thread, whose calls are in order, and which hold the same socket. -/
structure Custody (M : SocketCall σ → Prop) (ids : Option (SocketId × SocketId))
    (s s' : Among σ) : Prop where
  same : s = s'
  disciplined : Disciplined M s.calls
  settled : Settled (ids.map Prod.fst) s.calls
  held : ∀ i j, ids = some (i, j) → i = j ∧ i ∈ opened s.calls

/-- A call comes to the same for both copies, and leaves both with the same. -/
theorem Custody.call {α : Type} {ids : Option (SocketId × SocketId)} {s s' : Among σ}
    (h : Custody M ids s s') (effect : Except Failure α → Effect) (a : Act σ α)
    (after : Except Failure α → Option (SocketId × SocketId))
    (hafter : ∀ c, c = ⟨s.world, (a.runFrom s.world).2, effect (a.runFrom s.world).1⟩ →
      M c ∧ (∀ id, c.effect.concerned? = some id → id ∈ opened s.calls) ∧
        Settled ((after (a.runFrom s.world).1).map Prod.fst) (s.calls ++ [c]) ∧
        ∀ i j, after (a.runFrom s.world).1 = some (i, j) → i = j ∧ i ∈ opened (s.calls ++ [c])) :
    Meets (fun x y s s' => x = y ∧ Custody M (after (.ok x)) s s')
      (fun f => Custody M (after (.error f))) ((Among.call effect a).runFrom s)
      ((Among.call effect a).runFrom s') := by
  rcases h with ⟨rfl, hdisciplined, -, -⟩
  rcases hafter _ rfl with ⟨hM, howns, hsettled, hheld⟩
  rw [Among.call_runFrom]
  have hdone : Custody M (after (a.runFrom s.world).1) { s with calls := s.calls ++
      [⟨s.world, (a.runFrom s.world).2, effect (a.runFrom s.world).1⟩] } _ :=
    ⟨rfl, hdisciplined.concat hM howns, hsettled, hheld⟩
  exact Meets.of_eq rfl (fun x hx => ⟨rfl, hx ▸ hdone⟩) fun f hf => hf ▸ hdone

/-- A call on no socket, or on the one that is held, which goes on to be held. -/
theorem Custody.keeps {α : Type} {ids : Option (SocketId × SocketId)} {s s' : Among σ}
    (h : Custody M ids s s') (effect : Effect) (a : Act σ α)
    (hM : M ⟨s.world, (a.runFrom s.world).2, effect⟩) (hopened : effect.opened? = none)
    (hconcerned : ∀ id, effect.concerned? = some id → ids = some (id, id)) :
    Meets (fun _ _ => Custody M ids) (fun _ => Custody M ids)
      ((Among.call (fun _ => effect) a).runFrom s) ((Among.call (fun _ => effect) a).runFrom s') := by
  refine (h.call (fun _ => effect) a (fun _ => ids) ?_).imp (fun _ _ _ _ h => h.2) fun _ _ _ h => h
  rintro c rfl
  refine ⟨hM, fun id hid => (h.held id id (hconcerned id hid)).2,
    h.settled.concat (fun id hid => ?_) fun id hid => .inr hid, fun i j hij => ?_⟩
  · rw [hopened] at hid
    cases hid
  · rw [opened_concat]
    exact ⟨(h.held i j hij).1, List.mem_append_left _ (h.held i j hij).2⟩

/-- A thread is in order if the calls over its transport are as they should be. -/
theorem custody_twin (h : t.Calls host port M) (hnote : ∀ o s, ((t.note o).runFrom s).1 = .ok ()) :
    t.among.Twin t.among (fun _ => True) host port (Custody M) where
  note o ids := by
    refine ⟨fun _ _ => trivial, fun s s' hs _ => ?_⟩
    exact (hs.keeps .none (t.note o) (h.note o s.world) rfl fun _ h => nomatch h).of_ok
      (hnote o s'.world)
  connect host' port' span := by
    refine ⟨fun _ _ => trivial, ?_⟩
    rintro s s' ⟨rfl, rfl, hs⟩ _
    refine (hs.call Among.opening (t.connect host' port' span)
      (fun r => r.toOption.map fun i => (i, i)) ?_).imp ?_ fun _ _ _ h => h
    · rintro c rfl
      refine ⟨h.connect span s.world, ?_, ?_, ?_⟩ <;>
        rcases (t.connect host' port' span).runFrom s.world with ⟨_ | id, w⟩
      · exact fun _ hid => nomatch hid
      · exact fun _ hid => nomatch hid
      · exact hs.settled.concat (fun _ hid => nomatch hid) fun _ hid => nomatch hid
      · exact hs.settled.concat (fun _ hid => hid) fun _ hid => nomatch hid
      · exact fun _ _ hid => nomatch hid
      · rintro i j hij
        cases hij
        rw [opened_concat]
        exact ⟨rfl, List.mem_append_right _ (List.mem_singleton.mpr rfl)⟩
    · rintro i j s s' ⟨rfl, hs⟩
      exact hs
  setTimeout i j span := by
    refine ⟨fun _ _ => trivial, fun s s' hs _ => ?_⟩
    rcases (hs.held i j rfl).1
    exact hs.keeps (.uses i) (t.setTimeout i span) (h.setTimeout i span s.world) rfl
      fun _ hid => by cases hid; rfl
  send i j data := by
    refine ⟨fun _ _ => trivial, fun s s' hs _ => ?_⟩
    rcases (hs.held i j rfl).1
    exact hs.keeps (.uses i) (t.send i data) (h.send i data s.world) rfl
      fun _ hid => by cases hid; rfl
  arrivals i j n s s' hs _ := by
    rcases (hs.held i j rfl).1
    exact congrArg (t.among.arrivals i) hs.same
  consume i j n := by
    refine ⟨fun _ _ => trivial, fun s s' hs _ => ?_⟩
    rcases (hs.held i j rfl).1
    exact hs.keeps (.uses i) (t.consume i n) (h.consume i n s.world) rfl
      fun _ hid => by cases hid; rfl
  close i j := by
    refine ⟨fun _ _ => trivial, fun s s' hs _ => ?_⟩
    rcases (hs.held i j rfl).1
    -- The socket has been closed, however that has ended, even if it goes on to be held.
    have hforgets := hs.call (fun _ => .closes i) (t.close i) (fun _ => none) ?_
    have hkeeps := hs.keeps (.closes i) (t.close i) (h.close i s.world) rfl
      fun _ hid => by cases hid; rfl
    · exact (hforgets.and hkeeps).imp (fun _ _ _ _ h => h.1.2) fun _ _ _ h => ⟨h.1, fun _ => h.2⟩
    · rintro c rfl
      refine ⟨h.close i s.world, fun id hid => ?_, hs.settled.concat (fun _ hid => nomatch hid)
        fun id hid => .inl hid, fun _ _ hid => nomatch hid⟩
      cases hid
      exact (hs.held i i rfl).2

/-- What one of the threads has done. -/
theorem custody {ds : List Delivery} {w w' : σ} {history : History σ}
    {outcomes : List (Except Failure DispatchRecord)}
    (run : SideBySide t d ds w history outcomes w')
    (hnote : ∀ o s, ((t.note o).runFrom s).1 = .ok ()) {i : Nat} {delivery : Delivery}
    (hi : ds[i]? = some delivery) (h : t.Calls delivery.host delivery.port M) :
    Disciplined M (history.ofThread i) ∧ Settled none (history.ofThread i) := by
  rcases run.runs i delivery hi with ⟨finds, outcome, -, hrun⟩
  have hstart : Custody M none ⟨finds, []⟩ ⟨finds, []⟩ :=
    ⟨rfl, .nil, fun _ hid => (List.not_mem_nil hid).elim, fun _ _ hid => nomatch hid⟩
  rcases Dispatcher.dispatchSafely_runs d (custody_twin h hnote) hstart trivial with
    ⟨record, v, v', hv, -, hend⟩
  rw [hrun] at hv
  cases hv
  exact ⟨hend.disciplined, hend.settled⟩

end SideBySide

end MockHost
