import MockHost.Proofs.Dispatch.Twin

/-!
# Deliveries Side by Side

Every delivery is made by a thread of its own. Between any two calls that a thread makes
on its sockets the others may make theirs, and the world that it finds for its next call
is then not the one it has left. Nothing is said here about the order: a history of calls
is one that the threads may have made if each call is made in the world that the one
before it has left, and each thread, given the worlds that it found, makes just the calls
that the history ascribes to it.

To let others in between two calls of a delivery its transport is exchanged: in the world
of a thread among others a call is made in whatever world the thread finds, and is taken
down. Deliveries that are made one after another are the special case of threads that are
not disturbed.

## Main definitions

* `SocketCall`: A call on the sockets of a world, with the world it found and left.
* `Among`, `Transport.among`: The world of one thread among others.
* `SideBySide`: What threads that make deliveries side by side may have done.

## Theorems

* `dispatchAll_sideBySide`: Deliveries made one after another are made side by side.
-/

namespace MockHost

/-- What a call does with a socket. -/
inductive SocketCall.Effect where
  | opens (id : SocketId)
  | uses (id : SocketId)
  | closes (id : SocketId)
  | none
  deriving DecidableEq, Repr

/-- A call on the sockets of a world. -/
structure SocketCall (σ : Type) where
  before : σ
  after : σ
  effect : SocketCall.Effect

namespace SocketCall

variable {σ : Type}

/-- The world that some calls of a thread have left, if it started in `w`. -/
def left (w : σ) (calls : List (SocketCall σ)) : σ := (calls.getLast?.map after).getD w

@[simp] theorem left_nil (w : σ) : left w [] = w := rfl

theorem left_cons (w : σ) (c : SocketCall σ) (rest : List (SocketCall σ)) :
    left w (c :: rest) = left c.after rest := by
  rw [left, List.getLast?_cons, left]
  rcases rest.getLast? with _ | last <;> rfl

@[simp] theorem left_concat (w : σ) (calls : List (SocketCall σ)) (c : SocketCall σ) :
    left w (calls ++ [c]) = c.after := by
  rw [left, List.getLast?_concat]
  rfl

/-- Each call is made in the world that the one before it has left. -/
def Passes : σ → List (SocketCall σ) → σ → Prop
  | w, [], w' => w = w'
  | w, c :: rest, w' => c.before = w ∧ Passes c.after rest w'

theorem Passes.append {w w' w'' : σ} {calls more : List (SocketCall σ)} (h : Passes w calls w')
    (h' : Passes w' more w'') : Passes w (calls ++ more) w'' := by
  induction calls generalizing w with
  | nil => exact h ▸ h'
  | cons c rest ih => exact ⟨h.1, ih h.2⟩

theorem Passes.concat {w : σ} {calls : List (SocketCall σ)} {c : SocketCall σ}
    (h : Passes w calls c.before) : Passes w (calls ++ [c]) c.after :=
  h.append ⟨rfl, rfl⟩

theorem passes_concat {w w' : σ} {calls : List (SocketCall σ)} {c : SocketCall σ} :
    Passes w (calls ++ [c]) w' ↔ Passes w calls c.before ∧ c.after = w' := by
  refine ⟨fun h => ?_, fun h => h.2 ▸ h.1.concat⟩
  induction calls generalizing w with
  | nil => exact ⟨h.1.symm, h.2⟩
  | cons _ rest ih => exact ⟨⟨h.1, (ih h.2).1⟩, (ih h.2).2⟩

theorem Passes.left_eq {w w' : σ} {calls : List (SocketCall σ)} (h : Passes w calls w') :
    left w calls = w' := by
  induction calls generalizing w with
  | nil => exact h
  | cons c rest ih => rw [left_cons, ih h.2]

end SocketCall

/-- The world of a thread among others. -/
structure Among (σ : Type) where
  /-- The world that the thread finds for its next call, after the calls it has made. -/
  finds : List (SocketCall σ) → σ
  calls : List (SocketCall σ) := []

namespace Among

variable {σ α : Type}

/-- The world in which the next call is made. -/
def world (s : Among σ) : σ := s.finds s.calls

/-- A call that is made in the world that is found, and taken down. -/
def call (effect : Except Failure α → SocketCall.Effect) (a : Act σ α) : Act (Among σ) α :=
  fun s =>
    let (r, w) := a.runFrom s.world
    (r, { s with calls := s.calls ++ [⟨s.world, w, effect r⟩] })

theorem call_runFrom (effect : Except Failure α → SocketCall.Effect) (a : Act σ α) (s : Among σ) :
    (call effect a).runFrom s = ((a.runFrom s.world).1, { s with
      calls := s.calls ++ [⟨s.world, (a.runFrom s.world).2, effect (a.runFrom s.world).1⟩] }) := rfl

/-- What connecting does with a socket. -/
def opening : Except Failure SocketId → SocketCall.Effect
  | .ok id => .opens id
  | .error _ => .none

end Among

/-- The sockets of a world as one thread among others works with them. -/
def Transport.among {σ : Type} (t : Transport σ) : Transport (Among σ) where
  note o := Among.call (fun _ => .none) (t.note o)
  connect host port span := Among.call Among.opening (t.connect host port span)
  setTimeout id span := Among.call (fun _ => .uses id) (t.setTimeout id span)
  send id data := Among.call (fun _ => .uses id) (t.send id data)
  arrivals id s := t.arrivals id s.world
  consume id n := Among.call (fun _ => .uses id) (t.consume id n)
  close id := Among.call (fun _ => .closes id) (t.close id)

/-- The calls that threads have made, each with the number of its thread. -/
abbrev History (σ : Type) := List (Nat × SocketCall σ)

namespace History

variable {σ : Type}

/-- The calls of one thread. -/
def ofThread (h : History σ) (i : Nat) : List (SocketCall σ) :=
  h.filterMap fun e => if e.1 = i then some e.2 else none

/-- A thread that makes its calls before all others, which are numbered anew. -/
def after (calls : List (SocketCall σ)) (h : History σ) : History σ :=
  calls.map (fun c => (0, c)) ++ h.map fun e => (e.1 + 1, e.2)

theorem ofThread_concat (h : History σ) (e : Nat × SocketCall σ) (i : Nat) :
    ofThread (h ++ [e]) i = if e.1 = i then h.ofThread i ++ [e.2] else h.ofThread i := by
  rw [ofThread, List.filterMap_append, List.filterMap_cons]
  by_cases he : e.1 = i
  · rw [if_pos he, if_pos he]
    rfl
  · rw [if_neg he, if_neg he]
    exact List.append_nil _

theorem map_after (calls : List (SocketCall σ)) (h : History σ) :
    (after calls h).map Prod.snd = calls ++ h.map Prod.snd := by
  simp only [after, List.map_append, List.map_map, Function.comp_def, List.map_id']

theorem ofThread_after_zero (calls : List (SocketCall σ)) (h : History σ) :
    (after calls h).ofThread 0 = calls := by
  have hcalls : (calls.map fun c => (0, c)).filterMap
      (fun e : Nat × SocketCall σ => if e.1 = 0 then some e.2 else none) = calls := by
    simp only [List.filterMap_map, Function.comp_def, if_true, List.filterMap_some]
  have hothers : (h.map fun e => (e.1 + 1, e.2)).filterMap
      (fun e : Nat × SocketCall σ => if e.1 = 0 then some e.2 else none) = [] := by
    rw [List.filterMap_eq_nil_iff]
    rintro _ he
    rcases List.mem_map.mp he with ⟨e, -, rfl⟩
    rfl
  rw [ofThread, after, List.filterMap_append, hcalls, hothers, List.append_nil]

theorem ofThread_after_succ (calls : List (SocketCall σ)) (h : History σ) (i : Nat) :
    (after calls h).ofThread (i + 1) = h.ofThread i := by
  have hcalls : (calls.map fun c => (0, c)).filterMap
      (fun e : Nat × SocketCall σ => if e.1 = i + 1 then some e.2 else none) = [] := by
    rw [List.filterMap_eq_nil_iff]
    rintro _ he
    rcases List.mem_map.mp he with ⟨c, -, rfl⟩
    exact if_neg (Nat.succ_ne_zero i).symm
  rw [ofThread, after, List.filterMap_append, hcalls, List.nil_append, List.filterMap_map, ofThread]
  simp only [Function.comp_def, Nat.add_right_cancel_iff]

end History

/-- What threads that make deliveries side by side may have done from the world `w` on: the
    calls they have made, what each thread has come to, and the world in the end. -/
structure SideBySide {σ : Type} (t : Transport σ) (d : Dispatcher) (ds : List Delivery) (w : σ)
    (history : History σ) (outcomes : List (Except Failure DispatchRecord)) (w' : σ) : Prop where
  passes : SocketCall.Passes w (history.map Prod.snd) w'
  /-- Nobody else makes calls. -/
  threads : ∀ e ∈ history, e.1 < ds.length
  size : outcomes.length = ds.length
  runs : ∀ i delivery, ds[i]? = some delivery → ∃ finds outcome, outcomes[i]? = some outcome ∧
    (d.dispatchSafely t.among delivery).runFrom ⟨finds, []⟩ =
      (outcome, ⟨finds, history.ofThread i⟩)

namespace SideBySide

open Act (Meets)

variable {σ : Type} {t : Transport σ} {d : Dispatcher}

/-! ### One after another -/

/-- A thread that has not been disturbed since it started in `w`, and the world that it is in.
    The names of its sockets are those of that world. -/
def Undisturbed (w : σ) (ids : Option (SocketId × SocketId)) (s : Among σ) (v : σ) : Prop :=
  s.finds = SocketCall.left w ∧ SocketCall.Passes w s.calls v ∧ ∀ i j, ids = some (i, j) → i = j

theorem Undisturbed.world_eq {w : σ} {ids : Option (SocketId × SocketId)} {s : Among σ} {v : σ}
    (h : Undisturbed w ids s v) : s.world = v := by
  rw [Among.world, h.1, h.2.1.left_eq]

theorem Undisturbed.forget {w : σ} {ids : Option (SocketId × SocketId)} {s : Among σ} {v : σ}
    (h : Undisturbed w ids s v) : Undisturbed w none s v :=
  ⟨h.1, h.2.1, fun _ _ h => nomatch h⟩

/-- A call of such a thread comes to what it comes to in its world, and a socket that it opens
    has the same name there. -/
theorem call_meets {α : Type} {w : σ} {ids : Option (SocketId × SocketId)} {s : Among σ} {v : σ}
    (h : Undisturbed w ids s v) (effect : Except Failure α → SocketCall.Effect) (a : Act σ α)
    (after : Except Failure α → Option (SocketId × SocketId))
    (hafter : ∀ r i j, after r = some (i, j) → i = j) :
    Meets (fun x y s v => x = y ∧ Undisturbed w (after (.ok x)) s v)
      (fun f => Undisturbed w (after (.error f))) ((Among.call effect a).runFrom s)
      (a.runFrom v) := by
  rw [Among.call_runFrom, h.world_eq]
  have hdone : Undisturbed w (after (a.runFrom v).1) { s with
      calls := s.calls ++ [⟨v, (a.runFrom v).2, effect (a.runFrom v).1⟩] } (a.runFrom v).2 :=
    ⟨h.1, h.2.1.concat, hafter _⟩
  exact Meets.of_eq rfl (fun x hx => ⟨rfl, hx ▸ hdone⟩) fun f hf => hf ▸ hdone

/-- A call that leaves the names of the sockets as they are. -/
theorem call_keeps {α : Type} {w : σ} {ids : Option (SocketId × SocketId)} {s : Among σ} {v : σ}
    (h : Undisturbed w ids s v) (effect : Except Failure α → SocketCall.Effect) (a : Act σ α) :
    Meets (fun _ _ => Undisturbed w ids) (fun _ => Undisturbed w ids)
      ((Among.call effect a).runFrom s) (a.runFrom v) :=
  (call_meets h effect a (fun _ => ids) fun _ => h.2.2).imp (fun _ _ _ _ h => h.2)
    fun _ _ _ h => h

/-- A thread that is not disturbed works with the sockets of its world. -/
theorem among_twin (hnote : ∀ o s, ((t.note o).runFrom s).1 = .ok ()) (w : σ) (host : Text)
    (port : Port) : t.among.Twin t (fun _ => True) host port (Undisturbed w) where
  note o ids :=
    ⟨fun _ _ => trivial, fun s v h _ => (call_keeps h (fun _ => .none) (t.note o)).of_ok (hnote o v)⟩
  connect host' port' span := by
    refine ⟨fun _ _ => trivial, fun s v h _ => ?_⟩
    refine (call_meets h.2.2 Among.opening (t.connect host' port' span)
      (fun r => r.toOption.map fun i => (i, i)) ?_).imp ?_ fun _ _ _ h => h
    · rintro (_ | k) i j hk
      · cases hk
      · cases hk
        rfl
    · rintro i j s v ⟨rfl, h⟩
      exact h
  setTimeout i j span := by
    refine ⟨fun _ _ => trivial, fun s v h _ => ?_⟩
    rcases h.2.2 i j rfl
    exact call_keeps h (fun _ => .uses i) (t.setTimeout i span)
  send i j data := by
    refine ⟨fun _ _ => trivial, fun s v h _ => ?_⟩
    rcases h.2.2 i j rfl
    exact call_keeps h (fun _ => .uses i) (t.send i data)
  arrivals i j n s v h _ := by
    rcases h.2.2 i j rfl
    exact congrArg (t.arrivals i) h.world_eq
  consume i j n := by
    refine ⟨fun _ _ => trivial, fun s v h _ => ?_⟩
    rcases h.2.2 i j rfl
    exact call_keeps h (fun _ => .uses i) (t.consume i n)
  close i j := by
    refine ⟨fun _ _ => trivial, fun s v h _ => ?_⟩
    rcases h.2.2 i j rfl
    exact (call_keeps h (fun _ => .closes i) (t.close i)).imp (fun _ _ _ _ h => h.forget)
      fun _ _ _ h => ⟨h.forget, fun _ => h⟩

/-- What a thread that is not disturbed has done. -/
theorem dispatchSafely_among (hnote : ∀ o s, ((t.note o).runFrom s).1 = .ok ())
    (delivery : Delivery) (w : σ) :
    ∃ record w' calls, (d.dispatchSafely t delivery).runFrom w = (.ok record, w') ∧
      (d.dispatchSafely t.among delivery).runFrom ⟨SocketCall.left w, []⟩ =
        (.ok record, ⟨SocketCall.left w, calls⟩) ∧ SocketCall.Passes w calls w' := by
  have hstart : Undisturbed w none ⟨SocketCall.left w, []⟩ w := ⟨rfl, rfl, fun _ _ h => nomatch h⟩
  rcases Dispatcher.dispatchSafely_runs d (among_twin hnote w delivery.host delivery.port) hstart
    trivial with ⟨record, ⟨_, calls⟩, w', hamong, halone, rfl, hpasses, -⟩
  exact ⟨record, w', calls, halone, hamong, hpasses⟩

/-- Deliveries that are made one after another are made side by side, by threads of which each
    has made all its calls when the next one makes its first. -/
theorem dispatchAll_sideBySide (hnote : ∀ o s, ((t.note o).runFrom s).1 = .ok ())
    (ds : List Delivery) (w : σ) :
    ∃ records w' history, (d.dispatchAll t ds).runFrom w = (.ok records, w') ∧
      SideBySide t d ds w history (records.map .ok) w' := by
  -- The world is general: what the first delivery leaves is where the others start.
  induction ds generalizing w with
  | nil =>
      exact ⟨[], w, [], rfl, rfl, fun _ h => (List.not_mem_nil h).elim, rfl, fun _ _ h => nomatch h⟩
  | cons delivery rest ih =>
      rcases dispatchSafely_among hnote delivery w with
        ⟨record, v, calls, hfirst, hcalls, hpasses⟩
      rcases ih v with ⟨records, w', history, hrest, hothers⟩
      refine ⟨record :: records, w', .after calls history, ?_, ?_, ?_, ?_, ?_⟩
      · rw [Dispatcher.dispatchAll, Act.runFrom_bind_ok hfirst, Act.runFrom_bind_ok hrest,
          Act.runFrom_pure]
      · rw [History.map_after]
        exact hpasses.append hothers.passes
      · intro e he
        rcases List.mem_append.mp he with he | he
        · rcases List.mem_map.mp he with ⟨c, -, rfl⟩
          exact Nat.succ_pos _
        · rcases List.mem_map.mp he with ⟨e', he', rfl⟩
          exact Nat.succ_lt_succ (hothers.threads e' he')
      · rw [List.map_cons, List.length_cons, hothers.size, List.length_cons]
      · -- The first delivery is thread 0, so every other one is now one further on.
        intro i delivery' hdelivery
        cases i with
        | zero =>
            cases hdelivery
            exact ⟨_, _, rfl, by rw [History.ofThread_after_zero]; exact hcalls⟩
        | succ i =>
            rw [History.ofThread_after_succ]
            exact hothers.runs i delivery' hdelivery

end SideBySide

end MockHost
