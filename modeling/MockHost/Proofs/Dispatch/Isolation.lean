import Mathlib.Data.List.Induction
import MockHost.Proofs.Dispatch.Endpoints

/-!
# Deliveries Do Not Touch Each Other

Deliveries that are made side by side to endpoints of their own have the outcomes that
each of them would have if it were made alone. What makes this so is not the program: the
threads share the list of sockets, and the name that a socket gets depends on how many
others there are. But no thread changes what another one sees. That is a matter of the
whole history, since a thread that opened a socket under the name of another one would
have it both ways.

So the history comes first. Along it the sockets of different threads stay apart, and each
thread finds its part of the world as it has left it. This is the calm under which a thread
can be compared with the same delivery made alone.

## Main definitions

* `ScriptedWorld.Calm`: A thread finds its part of the world as it has left it.
* `ScriptedWorld.Orderly`: A history in which this is so for every thread.
* `Dispatched`: What is certain about deliveries that were made side by side.

## Theorems

* `ScriptedWorld.orderly`: Every history of disciplined threads is orderly.
* `ScriptedWorld.dispatchAll_isolates`: Nothing is lost, and failures stay where they are.
-/

namespace MockHost

open Act (Meets)
open SocketCall

namespace ScriptedWorld

/-! ### A thread that finds what it has left -/

/-- The scripts of an endpoint and some sockets are what they were. -/
structure Kept (name : Text) (owned : List SocketId) (w v : ScriptedWorld) : Prop where
  scripts : v.endpoints.lookup name = w.endpoints.lookup name
  sockets : ∀ id ∈ owned, v.sockets[id]? = w.sockets[id]?

theorem Kept.refl (name : Text) (owned : List SocketId) (w : ScriptedWorld) :
    Kept name owned w w := ⟨rfl, fun _ _ => rfl⟩

/-- For each of its calls a thread finds the scripts of its endpoint and the sockets that it
    has opened as its last call has left them. -/
def Calm (name : Text) (w : ScriptedWorld) (calls : List (SocketCall ScriptedWorld)) : Prop :=
  ∀ pre c, pre ++ [c] <+: calls → Kept name (opened pre) (left w pre) c.before

section

variable {name : Text} {w : ScriptedWorld} {calls : List (SocketCall ScriptedWorld)}
  {c : SocketCall ScriptedWorld} {s : Among ScriptedWorld} {v : ScriptedWorld}
  {ids : Option (SocketId × SocketId)}

theorem Calm.nil : Calm name w [] := by
  intro pre c h
  rw [List.prefix_nil] at h
  exact (List.append_ne_nil_of_right_ne_nil pre (List.cons_ne_nil c []) h).elim

theorem Calm.of_concat (h : Calm name w (calls ++ [c])) : Calm name w calls :=
  fun pre c' hpre => h pre c' (hpre.trans (List.prefix_append calls [c]))

theorem Calm.concat (h : Calm name w calls) (hc : Kept name (opened calls) (left w calls) c.before) :
    Calm name w (calls ++ [c]) := by
  intro pre c' hpre
  rcases List.prefix_concat_iff.mp hpre with heq | hpre
  · rcases List.append_inj' heq rfl with ⟨rfl, hcs⟩
    cases hcs
    exact hc
  · exact h pre c' hpre

/-- A thread, and the same delivery made alone: what the thread has left looks the same to its
    client as the world of the other one. -/
structure Matches (name : Text) (w : ScriptedWorld) (ids : Option (SocketId × SocketId))
    (s : Among ScriptedWorld) (v : ScriptedWorld) : Prop where
  alike : Alike name ids (left w s.calls) v
  opened : ∀ i j, ids = some (i, j) → i ∈ SocketCall.opened s.calls

theorem Matches.found (h : Matches name w ids s v) (hcalm : Calm name w (s.calls ++ [c]))
    (hc : c.before = s.world) : Alike name ids s.world v := by
  have hkept := hcalm s.calls c (List.prefix_refl _)
  rw [hc] at hkept
  refine ⟨hkept.scripts.trans h.alike.scripts, fun i j hij => ?_⟩
  rcases h.alike.socket i j hij with ⟨k, hleft, hv⟩
  exact ⟨k, (hkept.sockets i (h.opened i j hij)).trans hleft, hv⟩

/-- A call that comes to the same in worlds that look the same comes to the same for the
    thread, which has not been disturbed before it. -/
theorem Matches.call {α : Type} (h : Matches name w ids s v)
    {effect : Except Failure α → Effect} {a b : Act ScriptedWorld α}
    {after : α → α → Option (SocketId × SocketId)}
    (hcalm : Calm name w ((Among.call effect a).runFrom s).2.calls)
    (hop : Alike name ids s.world v → Meets (fun x y => Alike name (after x y))
      (fun _ => Alike name ids) (a.runFrom s.world) (b.runFrom v))
    (hopened : ∀ x y i j, after x y = some (i, j) →
      i ∈ SocketCall.opened s.calls ∨ (effect (.ok x)).opened? = some i) :
    Meets (fun x y => Matches name w (after x y)) (fun _ => Matches name w ids)
      ((Among.call effect a).runFrom s) (b.runFrom v) := by
  rw [Among.call_runFrom] at hcalm ⊢
  have hmeets := hop (h.found hcalm rfl)
  rcases ha : a.runFrom s.world with ⟨f | x, w'⟩ <;> rcases hb : b.runFrom v with ⟨g | y, v'⟩ <;>
    rw [ha, hb] at hmeets
  · refine ⟨hmeets.1, ?_, fun i j hij => ?_⟩
    · rw [left_concat]
      exact hmeets.2
    · rw [opened_concat]
      exact List.mem_append_left _ (h.opened i j hij)
  · exact hmeets.elim
  · exact hmeets.elim
  · refine ⟨?_, fun i j hij => ?_⟩
    · rw [left_concat]
      exact hmeets
    · rw [opened_concat, List.mem_append, Option.mem_toList]
      exact hopened x y i j hij

/-- A call that leaves the thread with the sockets that it had. -/
theorem Matches.keeps {α : Type} (h : Matches name w ids s v) {effect : Except Failure α → Effect}
    {a b : Act ScriptedWorld α} (hcalm : Calm name w ((Among.call effect a).runFrom s).2.calls)
    (hop : Alike name ids s.world v → Meets (fun _ _ => Alike name ids) (fun _ => Alike name ids)
      (a.runFrom s.world) (b.runFrom v)) :
    Meets (fun _ _ => Matches name w ids) (fun _ => Matches name w ids)
      ((Among.call effect a).runFrom s) (b.runFrom v) :=
  h.call hcalm hop fun _ _ i j hij => .inl (h.opened i j hij)

theorem Matches.forget (h : Matches name w ids s v) : Matches name w none s v :=
  ⟨h.alike.forget, fun _ _ hij => nomatch hij⟩

theorem calm_back {α : Type} (effect : Except Failure α → Effect) (a : Act ScriptedWorld α) :
    Act.Moves (Act.Back fun s => Calm name w s.calls) (Among.call effect a) :=
  fun _ hcalm => hcalm.of_concat

end

/-- A thread comes to what its delivery comes to alone, as long as it is calm. -/
theorem matches_twin (host : Text) (port : Port) (w : ScriptedWorld) :
    transport.among.Twin transport (fun s => Calm (host ++ ":" ++ Text.ofInt port) w s.calls) host
      port (Matches (host ++ ":" ++ Text.ofInt port) w) where
  note o _ :=
    ⟨calm_back _ _, fun s v h hcalm => (h.keeps hcalm fun ha => note_alike ha o).of_ok rfl⟩
  connect host' port' span := by
    refine ⟨calm_back _ _, ?_⟩
    rintro s v ⟨rfl, rfl, h⟩ hcalm
    refine h.call hcalm (fun ha => connect_alike ha span) ?_
    rintro x y i j hij
    cases hij
    exact .inr rfl
  setTimeout _ _ span :=
    ⟨calm_back _ _, fun s v h hcalm => h.keeps hcalm fun ha => setTimeout_alike ha span⟩
  send _ _ data := ⟨calm_back _ _, fun s v h hcalm => h.keeps hcalm fun ha => send_alike ha data⟩
  arrivals _ _ _ _ _ h hcalm := arrivals_alike (h.found hcalm rfl)
  consume _ _ n := ⟨calm_back _ _, fun s v h hcalm => h.keeps hcalm fun ha => consume_alike ha n⟩
  close _ _ := ⟨calm_back _ _, fun s v h hcalm => (h.keeps hcalm fun ha => close_alike ha).imp
    (fun _ _ _ _ h => h.forget) fun _ _ _ h => ⟨h.forget, fun _ => h⟩⟩

/-! ### All threads -/

/-- A history along which the threads, each with the name of its endpoint, do not disturb each
    other, and the world in the end. -/
structure Orderly (names : Nat → Text) (n : Nat) (w : ScriptedWorld)
    (history : History ScriptedWorld) (v : ScriptedWorld) : Prop where
  /-- What a thread has left is still there. -/
  kept : ∀ i, i < n → Kept (names i) (opened (history.ofThread i)) (left w (history.ofThread i)) v
  known : ∀ i, i < n → ∀ id ∈ opened (history.ofThread i), id < v.sockets.size
  apart : ∀ i j, i < n → j < n → i ≠ j → ∀ id ∈ opened (history.ofThread i),
    id ∉ opened (history.ofThread j)
  calm : ∀ i, i < n → Calm (names i) w (history.ofThread i)

variable {names : Nat → Text} {n : Nat} {w v : ScriptedWorld} {history : History ScriptedWorld}

theorem Orderly.nil : Orderly names n w [] w where
  kept _ _ := Kept.refl _ _ w
  known _ _ _ hid := (List.not_mem_nil hid).elim
  apart _ _ _ _ _ _ hid := (List.not_mem_nil hid).elim
  calm _ _ := .nil

/-- What one thread has left stays there while another one makes a call. -/
theorem Kept.of_minds {name other : Text} {owned : List SocketId} {c : SocketCall ScriptedWorld}
    (h : Kept name owned w c.before) (hc : Minds other c) (hne : name ≠ other)
    (hknown : ∀ id ∈ owned, id < c.before.sockets.size)
    (hapart : ∀ id ∈ owned, c.effect.concerned? ≠ some id) : Kept name owned w c.after :=
  ⟨(hc.others name hne).trans h.scripts,
    fun id hid => (hc.sockets id (hknown id hid) (hapart id hid)).trans (h.sockets id hid)⟩

theorem mem_opened_concat {i j : Nat} {c : SocketCall ScriptedWorld} {id : SocketId} :
    id ∈ opened (History.ofThread (history ++ [(j, c)]) i) ↔
      id ∈ opened (history.ofThread i) ∨ j = i ∧ c.effect.opened? = some id := by
  rw [History.ofThread_concat]
  by_cases hji : j = i
  · rw [if_pos hji, opened_concat, List.mem_append, Option.mem_toList]
    exact or_congr_right ⟨fun h => ⟨hji, h⟩, fun h => h.2⟩
  · rw [if_neg hji]
    exact ⟨.inl, fun h => h.resolve_right fun h => hji h.1⟩

theorem Orderly.concat {j : Nat} {c : SocketCall ScriptedWorld}
    (h : Orderly names n w history c.before) (hj : j < n)
    (hnames : ∀ i, i < n → i ≠ j → names i ≠ names j) (hc : Minds (names j) c)
    (howns : ∀ id, c.effect.concerned? = some id → id ∈ opened (history.ofThread j)) :
    Orderly names n w (history ++ [(j, c)]) c.after := by
  -- A socket of another thread is neither the one that the call is made on nor a new one.
  have hothers : ∀ i, i < n → i ≠ j → ∀ id ∈ opened (history.ofThread i),
      c.effect.concerned? ≠ some id ∧ c.effect.opened? ≠ some id := by
    intro i hi hij id hid
    refine ⟨fun hconcerned => ?_, fun hopened => ?_⟩
    · exact h.apart i j hi hj hij id hid (howns id hconcerned)
    · have hlt := h.known i hi id hid
      rw [(hc.opened id hopened).1] at hlt
      exact Nat.lt_irrefl _ hlt
  refine ⟨fun i hi => ?_, fun i hi id hid => ?_, fun i k hi hk hik id hid => ?_, fun i hi => ?_⟩
  · rw [History.ofThread_concat]
    by_cases hji : j = i
    · rw [if_pos hji, left_concat]
      exact Kept.refl _ _ _
    · rw [if_neg hji]
      exact (h.kept i hi).of_minds hc (hnames i hi (Ne.symm hji)) (h.known i hi)
        fun id hid => (hothers i hi (Ne.symm hji) id hid).1
  · rcases mem_opened_concat.mp hid with hid | ⟨-, hopened⟩
    · exact Nat.lt_of_lt_of_le (h.known i hi id hid) hc.size
    · exact (hc.opened id hopened).2
  · intro hid'
    rcases mem_opened_concat.mp hid with hid | ⟨hji, hopened⟩ <;>
      rcases mem_opened_concat.mp hid' with hid' | ⟨hjk, hopened'⟩
    · exact h.apart i k hi hk hik id hid hid'
    · exact (hothers i hi (hjk ▸ hik) id hid).2 hopened'
    · exact (hothers k hk (hji ▸ Ne.symm hik) id hid').2 hopened
    · exact hik (hji.symm.trans hjk)
  · rw [History.ofThread_concat]
    by_cases hji : j = i
    · rw [if_pos hji]
      exact (h.calm i hi).concat (hji ▸ h.kept i hi)
    · rw [if_neg hji]
      exact h.calm i hi

/-- Threads that only make calls of their own do not disturb each other. -/
theorem orderly (hnames : ∀ i j, i < n → j < n → i ≠ j → names i ≠ names j)
    (hpasses : Passes w (history.map Prod.snd) v) (hthreads : ∀ e ∈ history, e.1 < n)
    (hdisciplined : ∀ i, i < n → Disciplined (Minds (names i)) (history.ofThread i)) :
    Orderly names n w history v := by
  -- By the last call that any thread has made: all the calls before it are in order already.
  induction history using List.reverseRecOn generalizing v with
  | nil =>
      cases hpasses
      exact .nil
  | append_singleton rest e ih =>
      rcases e with ⟨j, c⟩
      have hj : j < n := hthreads (j, c) (List.mem_append_right _ List.mem_cons_self)
      rw [List.map_append, List.map_cons, List.map_nil, passes_concat] at hpasses
      rcases hpasses with ⟨hbefore, rfl⟩
      have hrest : Orderly names n w rest c.before := by
        refine ih hbefore (fun e he => hthreads e (List.mem_append_left _ he)) fun i hi => ?_
        have hi' := hdisciplined i hi
        rw [History.ofThread_concat] at hi'
        by_cases hji : j = i
        · rw [if_pos hji] at hi'
          exact hi'.of_concat
        · rwa [if_neg hji] at hi'
      have hlast := hdisciplined j hj
      rw [History.ofThread_concat, if_pos rfl] at hlast
      exact hrest.concat hj (fun i hi hij => hnames i j hi hj hij)
        (hlast.each c (List.mem_append_right _ List.mem_cons_self))
        (hlast.owns _ c (List.prefix_refl _))

/-- Every socket that there is in the end, and was not in the beginning, has been opened by one
    of the calls. -/
theorem exists_opened {calls : List (SocketCall ScriptedWorld)} (h : Passes w calls v)
    (hminds : ∀ c ∈ calls, ∃ name, Minds name c) {id : SocketId} (hle : w.sockets.size ≤ id)
    (hlt : id < v.sockets.size) : ∃ c ∈ calls, c.effect.opened? = some id := by
  induction calls generalizing w with
  | nil =>
      cases h
      exact (Nat.not_lt.mpr hle hlt).elim
  | cons c rest ih =>
      rcases h with ⟨rfl, hrest⟩
      by_cases hid : id < c.after.sockets.size
      · rcases hminds c List.mem_cons_self with ⟨name, hc⟩
        exact ⟨c, List.mem_cons_self, hc.added id hle hid⟩
      · rcases ih hrest (fun c hc => hminds c (List.mem_cons_of_mem _ hc)) (Nat.not_lt.mp hid) with
          ⟨c', hc', hopened⟩
        exact ⟨c', List.mem_cons_of_mem _ hc', hopened⟩

end ScriptedWorld

/-! ### What comes of deliveries -/

/-- The record of a delivery that is made alone: what has gone wrong is recorded as a failure. -/
def Dispatcher.recordAlone (d : Dispatcher) (delivery : Delivery) (w : ScriptedWorld) :
    DispatchRecord :=
  match ((d.dispatch ScriptedWorld.transport delivery).runFrom w).1 with
  | .ok record => record
  | .error f => Dispatcher.failedRecord delivery f

theorem Dispatcher.dispatchSafely_alone (d : Dispatcher) (delivery : Delivery) (w : ScriptedWorld) :
    ((d.dispatchSafely ScriptedWorld.transport delivery).runFrom w).1 =
      .ok (d.recordAlone delivery w) := by
  rw [Dispatcher.dispatchSafely, Act.runFrom_bind_ok (Act.runFrom_attempt _ _),
    Dispatcher.recordAlone]
  rcases (d.dispatch ScriptedWorld.transport delivery).runFrom w with ⟨f | record, w'⟩
  · rfl
  · rfl

/-- The name of the endpoint of a delivery. -/
def Delivery.endpoint (delivery : Delivery) : Text :=
  delivery.host ++ ":" ++ Text.ofInt delivery.port

/-- What is certain about deliveries that have been made side by side from the world `w` on. -/
structure Dispatched (d : Dispatcher) (ds : List Delivery) (w : ScriptedWorld)
    (history : History ScriptedWorld) (outcomes : List (Except Failure DispatchRecord))
    (w' : ScriptedWorld) : Prop where
  /-- No thread has failed, and there is a record for each delivery, in order. -/
  recorded : ∃ records : List DispatchRecord, outcomes = records.map .ok ∧ records.map DispatchRecord.delivery = ds
  /-- Deliveries to endpoints of their own have the records that they would have alone. -/
  isolated : (ds.map Delivery.endpoint).Nodup → ∀ (i : Nat) delivery, ds[i]? = some delivery →
    outcomes[i]? = some (Except.ok (d.recordAlone delivery w))
  /-- Every socket that has been added since has been closed. -/
  closed : ∀ id, w.sockets.size ≤ id → id < w'.sockets.size →
    ∃ i, id ∈ SocketCall.closed (history.ofThread i)

namespace SideBySide

open ScriptedWorld (transport)

variable {d : Dispatcher} {ds : List Delivery} {w w' : ScriptedWorld}
  {history : History ScriptedWorld} {outcomes : List (Except Failure DispatchRecord)}

theorem recorded (run : SideBySide transport d ds w history outcomes w') :
    ∃ records : List DispatchRecord, outcomes = records.map .ok ∧
      records.map DispatchRecord.delivery = ds := by
  have heach : ∀ (i : Nat) delivery, ds[i]? = some delivery →
      ∃ record : DispatchRecord, outcomes[i]? = some (Except.ok record) ∧ record.delivery = delivery := by
    intro i delivery hi
    rcases run.runs i delivery hi with ⟨finds, outcome, houtcome, hrun⟩
    rcases Dispatcher.dispatchSafely_record (t := transport.among) (fun _ _ => rfl) d delivery
      ⟨finds, []⟩ with ⟨record, hrecord, hdelivery⟩
    rw [hrun] at hrecord
    cases hrecord
    exact ⟨record, houtcome, hdelivery⟩
  -- The induction is on the deliveries alone, for which the calls no longer matter.
  have hsize := run.size
  clear run
  induction ds generalizing outcomes with
  | nil => exact ⟨[], List.length_eq_zero_iff.mp hsize, rfl⟩
  | cons delivery rest ih =>
      cases outcomes with
      | nil => cases hsize
      | cons outcome others =>
          rcases heach 0 delivery rfl with ⟨record, houtcome, hdelivery⟩
          cases houtcome
          rcases ih (fun i delivery' hi => heach (i + 1) delivery' hi) (Nat.succ.inj hsize) with
            ⟨records, rfl, rfl⟩
          exact ⟨record :: records, rfl, by rw [List.map_cons, hdelivery]⟩

theorem disciplined (run : SideBySide transport d ds w history outcomes w') {i : Nat}
    {delivery : Delivery} (hi : ds[i]? = some delivery) :
    Disciplined (ScriptedWorld.Minds delivery.endpoint) (history.ofThread i) ∧
      Settled none (history.ofThread i) :=
  run.custody (fun _ _ => rfl) hi (ScriptedWorld.transport_calls delivery.host delivery.port)

theorem isolated (run : SideBySide transport d ds w history outcomes w')
    (hnodup : (ds.map Delivery.endpoint).Nodup) {i : Nat} {delivery : Delivery}
    (hi : ds[i]? = some delivery) :
    outcomes[i]? = some (Except.ok (d.recordAlone delivery w)) := by
  let names : Nat → Text := fun i => ((ds[i]?).map Delivery.endpoint).getD []
  have hnames : ∀ j k, j < ds.length → k < ds.length → j ≠ k → names j ≠ names k := by
    intro j k hj hk hjk heq
    have hname : ∀ m, m < ds.length → (ds.map Delivery.endpoint)[m]? = some (names m) := by
      intro m hm
      simp only [names, List.getElem?_map, List.getElem?_eq_getElem hm, Option.map_some,
        Option.getD_some]
    have hlength : j < (ds.map Delivery.endpoint).length := by rwa [List.length_map]
    refine hjk ((List.getElem?_inj hlength hnodup).mp ?_)
    rw [hname j hj, hname k hk, heq]
  have horderly : ScriptedWorld.Orderly names ds.length w history w' := by
    refine ScriptedWorld.orderly hnames run.passes run.threads fun j hj => ?_
    have hdelivery := List.getElem?_eq_getElem hj
    have hminds := (run.disciplined hdelivery).1
    simp only [names, hdelivery]
    exact hminds
  -- A thread that is not disturbed goes along with a delivery that is made alone.
  rcases List.getElem?_eq_some_iff.mp hi with ⟨hlt, -⟩
  have hcalm := horderly.calm i hlt
  simp only [names, hi, Option.map_some, Option.getD_some] at hcalm
  rcases run.runs i delivery hi with ⟨finds, outcome, houtcome, hrun⟩
  have hstart : ScriptedWorld.Matches delivery.endpoint w none ⟨finds, []⟩ w :=
    ⟨⟨rfl, fun _ _ hij => nomatch hij⟩, fun _ _ hij => nomatch hij⟩
  rcases Dispatcher.dispatchSafely_runs d
    (ScriptedWorld.matches_twin delivery.host delivery.port w) hstart
    (by rw [hrun]; exact hcalm) with ⟨record, s, v, hthread, halone, -⟩
  rw [hrun] at hthread
  have hrecord := d.dispatchSafely_alone delivery w
  rw [halone] at hrecord
  cases hthread
  exact houtcome.trans (congrArg some hrecord)

theorem closed (run : SideBySide transport d ds w history outcomes w') {id : SocketId}
    (hle : w.sockets.size ≤ id) (hlt : id < w'.sockets.size) :
    ∃ i, id ∈ SocketCall.closed (history.ofThread i) := by
  have hthread : ∀ e ∈ history, ∃ delivery, ds[e.1]? = some delivery ∧
      e.2 ∈ history.ofThread e.1 := by
    intro e he
    exact ⟨_, List.getElem?_eq_getElem (run.threads e he),
      List.mem_filterMap.mpr ⟨e, he, if_pos rfl⟩⟩
  have hminds : ∀ c ∈ history.map Prod.snd, ∃ name, ScriptedWorld.Minds name c := by
    intro c hc
    rcases List.mem_map.mp hc with ⟨e, he, rfl⟩
    rcases hthread e he with ⟨delivery, hdelivery, hmem⟩
    exact ⟨_, (run.disciplined hdelivery).1.each e.2 hmem⟩
  rcases ScriptedWorld.exists_opened run.passes hminds hle hlt with ⟨c, hc, hopened⟩
  rcases List.mem_map.mp hc with ⟨e, he, rfl⟩
  rcases hthread e he with ⟨delivery, hdelivery, hmem⟩
  have hid : id ∈ opened (history.ofThread e.1) := List.mem_filterMap.mpr ⟨e.2, hmem, hopened⟩
  -- What a thread has opened it has closed, or it still holds it, and in the end it holds none.
  rcases (run.disciplined hdelivery).2 id hid with hclosed | hheld
  · exact ⟨e.1, hclosed⟩
  · cases hheld

end SideBySide

/-- Deliveries never fail as a whole. Made one after another they are a case of deliveries made
    side by side; and whatever the order of the calls that the threads have made, nothing is
    lost, nobody has suffered from the failures of others, and nothing is left open. -/
theorem ScriptedWorld.dispatchAll_isolates (d : Dispatcher) (ds : List Delivery)
    (w : ScriptedWorld) :
    (∃ records w' history, (d.dispatchAll transport ds).runFrom w = (.ok records, w') ∧
      SideBySide transport d ds w history (records.map .ok) w') ∧
    ∀ history outcomes w', SideBySide transport d ds w history outcomes w' →
      Dispatched d ds w history outcomes w' :=
  ⟨SideBySide.dispatchAll_sideBySide (fun _ _ => rfl) ds w, fun _ _ _ run =>
    ⟨run.recorded, fun hnodup _ _ hi => run.isolated hnodup hi, fun _ hle hlt => run.closed hle hlt⟩⟩

/-! ### A delivery that is refused while another one is made -/

namespace Refused

/-- What the two deliveries leave in the trace. The first one has just connected when the second
    one is refused, and goes on when that has been logged. -/
def trace : List Occurrence :=
  let first : List LogField := [.text "host" "192.0.2.1", .int "port" 9000]
  [.connect "192.0.2.1:9000" ⟨0⟩, .connect "192.0.2.2:9000" ⟨0⟩,
    .logged .error "dispatch_failed" [.text "host" "192.0.2.2", .int "port" 9000,
      .text "error" "Connection refused by 192.0.2.2:9000",
      .text "error_type" "TargetRefusedError"],
    .logged .debug "tcp_client_connected" first,
    .logged .debug "tcp_client_sending" (first ++ [.nat "size" 1]),
    .send "192.0.2.1:9000" [120], .close "192.0.2.1:9000",
    .logged .debug "tcp_client_closed" first,
    .logged .info "dispatch_sent" (first ++ [.nat "size" 1, .text "outcome" "sent"])]

/-- The world after so many calls. -/
def world (n : Nat) : ScriptedWorld where
  endpoints := [("192.0.2.1:9000", if n = 0 then [{}] else [])]
  sockets := if n = 0 then #[] else #[⟨"192.0.2.1:9000", [], [], none⟩]
  trace := (trace.take n).toArray

/-- The call that is made after so many others. -/
def call (n : Nat) (effect : Effect) : SocketCall ScriptedWorld := ⟨world n, world (n + 1), effect⟩

def history : History ScriptedWorld :=
  [(0, call 0 (.opens 0)), (1, call 1 .none), (1, call 2 .none), (0, call 3 .none),
    (0, call 4 .none), (0, call 5 (.uses 0)), (0, call 6 (.closes 0)), (0, call 7 .none),
    (0, call 8 .none)]

theorem sideBySide :
    SideBySide ScriptedWorld.transport .idle
      [⟨"192.0.2.1", 9000, "x"⟩, ⟨"192.0.2.2", 9000, "y"⟩] (world 0) history
      [.ok ⟨⟨"192.0.2.1", 9000, "x"⟩, .sent, none⟩, .ok ⟨⟨"192.0.2.2", 9000, "y"⟩, .failed,
        some "Connection refused by 192.0.2.2:9000"⟩] (world 9) where
  passes := ⟨rfl, rfl, rfl, rfl, rfl, rfl, rfl, rfl, rfl, rfl⟩
  threads := by decide
  size := rfl
  runs := by
    intro i delivery hi
    rcases i with _ | _ | i
    · cases hi
      exact ⟨fun calls => world (if calls.length = 0 then 0 else calls.length + 2), _, rfl, rfl⟩
    · cases hi
      exact ⟨fun calls => world (calls.length + 1), _, rfl, rfl⟩
    · cases hi

end Refused

/-- The delivery that is not refused has the record that it has alone, and its socket is closed. -/
theorem ScriptedWorld.dispatchAll_isolates_refused :
    SideBySide transport .idle [⟨"192.0.2.1", 9000, "x"⟩, ⟨"192.0.2.2", 9000, "y"⟩]
      (Refused.world 0) Refused.history
      [.ok ⟨⟨"192.0.2.1", 9000, "x"⟩, .sent, none⟩, .ok ⟨⟨"192.0.2.2", 9000, "y"⟩, .failed,
        some "Connection refused by 192.0.2.2:9000"⟩] (Refused.world 9) ∧
    Dispatcher.idle.recordAlone ⟨"192.0.2.1", 9000, "x"⟩ (Refused.world 0) =
      ⟨⟨"192.0.2.1", 9000, "x"⟩, .sent, none⟩ ∧
    ∃ i, 0 ∈ SocketCall.closed (Refused.history.ofThread i) := by
  have run := Refused.sideBySide
  have hdispatched := (dispatchAll_isolates .idle _ _).2 _ _ _ run
  have hrecord := hdispatched.isolated (by decide) 0 _ rfl
  injection hrecord with hrecord
  injection hrecord with hrecord
  exact ⟨run, hrecord.symm, hdispatched.closed 0 (Nat.le_refl 0) Nat.one_pos⟩

end MockHost
