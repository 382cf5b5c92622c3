import MockHost.Proofs.Dispatch.Custody

/-!
# Endpoints That Do Not Share

A client of a scripted endpoint sees little of the world: the scripts that are left for
its endpoint, and its socket. Two worlds that agree in these come to the same for every
operation of the client and agree in them afterwards. And what the client changes is as
little: it takes scripts of its endpoint, and changes its socket, or adds one under a name
that no socket has had.

## Main definitions

* `ScriptedWorld.Alike`: Two worlds that look the same to a client of an endpoint.
* `ScriptedWorld.Minds`: A call that changes only what a client of an endpoint works with.

## Theorems

* `ScriptedWorld.connect_alike`, `ScriptedWorld.send_alike` and so on: Operations in worlds
  that look the same come to the same.
* `ScriptedWorld.transport_calls`: The calls of a client change nothing else.
-/

namespace MockHost

namespace ScriptedWorld

open Act (Meets)

theorem connect_runFrom (host : Text) (port : Port) (span : Seconds) (w : ScriptedWorld) :
    (connect host port span).runFrom w =
      match takeScript (host ++ ":" ++ Text.ofInt port) w.endpoints with
      | none => (.error (.system (.numbered 111)),
          { w with trace := w.trace.push (.connect (host ++ ":" ++ Text.ofInt port) span) })
      | some (script, endpoints) => match script.connecting with
        | some f => (.error f, { w with
            endpoints, trace := w.trace.push (.connect (host ++ ":" ++ Text.ofInt port) span) })
        | none => (.ok w.sockets.size, { w with
            endpoints, trace := w.trace.push (.connect (host ++ ":" ++ Text.ofInt port) span),
            sockets := w.sockets.push (script.toSocket (host ++ ":" ++ Text.ofInt port)) }) := by
  rw [connect, note, Act.runFrom_bind_ok (Act.runFrom_modify _ _), Act.runFrom_bind_ok (Act.runFrom_get _)]
  dsimp only
  rcases takeScript (host ++ ":" ++ Text.ofInt port) w.endpoints with _ | ⟨script, endpoints⟩
  · rfl
  · dsimp only
    rw [Act.runFrom_bind_ok (Act.runFrom_modify _ _)]
    rcases script.connecting with _ | f
    · rfl
    · rfl

theorem note_runFrom (o : Occurrence) (w : ScriptedWorld) :
    (note o).runFrom w = (.ok (), { w with trace := w.trace.push o }) := rfl

theorem setSocket_runFrom (id : SocketId) (k : ScriptedSocket) (w : ScriptedWorld) :
    (setSocket id k).runFrom w =
      (.ok (), { w with sockets := w.sockets.setIfInBounds id k }) := rfl

theorem onSocket_runFrom (id : SocketId) (a : ScriptedSocket → Act ScriptedWorld Unit)
    (w : ScriptedWorld) : (onSocket id a).runFrom w =
      match w.sockets[id]? with
      | some s => (a s).runFrom w
      | none => (.ok (), w) := by
  rw [onSocket, Act.runFrom_bind_ok (Act.runFrom_get _)]
  rcases w.sockets[id]? with _ | s <;> rfl

theorem takeScript_none {name : Text} {es : List (Text × List Script)}
    (h : takeScript name es = none) : es.lookup name = none ∨ es.lookup name = some [] := by
  induction es with
  | nil => exact .inl rfl
  | cons e rest ih =>
      rcases e with ⟨n, scripts⟩
      unfold takeScript at h
      by_cases hn : n = name
      · rw [if_pos hn] at h
        cases scripts with
        | nil => exact .inr (by rw [hn, List.lookup_cons_self])
        | cons s more => cases h
      · rw [if_neg hn, Option.map_eq_none_iff] at h
        rw [List.lookup_cons, (beq_eq_false_iff_ne (a := name) (b := n)).mpr (Ne.symm hn)]
        exact ih h

theorem takeScript_some {name : Text} {es es' : List (Text × List Script)} {s : Script}
    (h : takeScript name es = some (s, es')) :
    (∃ more, es.lookup name = some (s :: more) ∧ es'.lookup name = some more) ∧
      ∀ other, other ≠ name → es'.lookup other = es.lookup other := by
  -- The script is taken from the first entry of that name, which is also the one looked up.
  induction es generalizing es' with
  | nil => cases h
  | cons e rest ih =>
      rcases e with ⟨n, scripts⟩
      unfold takeScript at h
      by_cases hn : n = name
      · rw [if_pos hn] at h
        cases scripts with
        | nil => cases h
        | cons s' more =>
            cases h
            refine ⟨⟨more, by rw [hn, List.lookup_cons_self], by rw [hn, List.lookup_cons_self]⟩, ?_⟩
            intro other hother
            rw [List.lookup_cons, List.lookup_cons]
            rw [beq_eq_false_iff_ne.mpr (hn ▸ hother)]
      · rw [if_neg hn, Option.map_eq_some_iff] at h
        rcases h with ⟨⟨s', rest'⟩, hrest, heq⟩
        cases heq
        rcases ih hrest with ⟨⟨more, hbefore, hafter⟩, hothers⟩
        have hne : (name == n) = false := beq_eq_false_iff_ne.mpr (Ne.symm hn)
        refine ⟨⟨more, ?_, ?_⟩, fun other hother => ?_⟩
        · rw [List.lookup_cons, hne]
          exact hbefore
        · rw [List.lookup_cons, hne]
          exact hafter
        · rw [List.lookup_cons, List.lookup_cons, hothers other hother]

/-- Two worlds that look the same to a client of an endpoint that holds a socket, or none. -/
structure Alike (name : Text) (ids : Option (SocketId × SocketId)) (w v : ScriptedWorld) : Prop where
  scripts : w.endpoints.lookup name = v.endpoints.lookup name
  socket : ∀ i j, ids = some (i, j) → ∃ k, w.sockets[i]? = some k ∧ v.sockets[j]? = some k

section

variable {name : Text} {ids : Option (SocketId × SocketId)} {w v : ScriptedWorld} {i j : SocketId}

theorem Alike.forget (h : Alike name ids w v) : Alike name none w v :=
  ⟨h.scripts, fun _ _ hij => nomatch hij⟩

theorem note_alike (h : Alike name ids w v) (o : Occurrence) :
    Meets (fun _ _ => Alike name ids) (fun _ => Alike name ids) ((note o).runFrom w)
      ((note o).runFrom v) :=
  ⟨h.scripts, h.socket⟩

theorem connect_alike {host : Text} {port : Port}
    (h : Alike (host ++ ":" ++ Text.ofInt port) none w v) (span : Seconds) :
    Meets (fun i j => Alike (host ++ ":" ++ Text.ofInt port) (some (i, j)))
      (fun _ => Alike (host ++ ":" ++ Text.ofInt port) none) ((connect host port span).runFrom w)
      ((connect host port span).runFrom v) := by
  rw [connect_runFrom, connect_runFrom]
  generalize host ++ ":" ++ Text.ofInt port = name at h ⊢
  rcases hw : takeScript name w.endpoints with _ | ⟨s, es⟩ <;>
    rcases hv : takeScript name v.endpoints with _ | ⟨s', es'⟩
  · exact ⟨rfl, h.scripts, h.socket⟩
  · -- One of them still has a script for the endpoint, and the other one has none.
    rcases takeScript_some hv with ⟨⟨more, hbefore, -⟩, -⟩
    rw [← h.scripts] at hbefore
    rcases takeScript_none hw with hnone | hnil
    · cases hnone.symm.trans hbefore
    · cases hnil.symm.trans hbefore
  · rcases takeScript_some hw with ⟨⟨more, hbefore, -⟩, -⟩
    rw [h.scripts] at hbefore
    rcases takeScript_none hv with hnone | hnil
    · cases hnone.symm.trans hbefore
    · cases hnil.symm.trans hbefore
  · rcases takeScript_some hw with ⟨⟨more, hbefore, hafter⟩, -⟩
    rcases takeScript_some hv with ⟨⟨more', hbefore', hafter'⟩, -⟩
    have hsame := hbefore.symm.trans (h.scripts.trans hbefore')
    cases hsame
    dsimp only
    rcases s.connecting with _ | f
    · refine ⟨hafter.trans hafter'.symm, ?_⟩
      rintro i j hij
      cases hij
      exact ⟨s.toSocket name, Array.getElem?_push_size, Array.getElem?_push_size⟩
    · exact ⟨rfl, hafter.trans hafter'.symm, fun _ _ hij => nomatch hij⟩

theorem onSocket_alike (h : Alike name (some (i, j)) w v)
    {a b : ScriptedSocket → Act ScriptedWorld Unit}
    (hab : ∀ k, w.sockets[i]? = some k → v.sockets[j]? = some k →
      Meets (fun _ _ => Alike name (some (i, j))) (fun _ => Alike name (some (i, j)))
        ((a k).runFrom w) ((b k).runFrom v)) :
    Meets (fun _ _ => Alike name (some (i, j))) (fun _ => Alike name (some (i, j)))
      ((onSocket i a).runFrom w) ((onSocket j b).runFrom v) := by
  rcases h.socket i j rfl with ⟨k, hw, hv⟩
  rw [onSocket_runFrom, onSocket_runFrom, hw, hv]
  exact hab k hw hv

theorem setSocket_alike (h : Alike name (some (i, j)) w v) (k : ScriptedSocket) :
    Alike name (some (i, j)) ((setSocket i k).runFrom w).2 ((setSocket j k).runFrom v).2 := by
  refine ⟨h.scripts, ?_⟩
  rintro i' j' hij
  cases hij
  rcases h.socket i j rfl with ⟨k', hw, hv⟩
  refine ⟨k, ?_, ?_⟩
  · exact Array.getElem?_setIfInBounds_self_of_lt (Array.getElem?_eq_some_iff.mp hw).1
  · exact Array.getElem?_setIfInBounds_self_of_lt (Array.getElem?_eq_some_iff.mp hv).1

theorem setTimeout_alike (h : Alike name (some (i, j)) w v) (span : Seconds) :
    Meets (fun _ _ => Alike name (some (i, j))) (fun _ => Alike name (some (i, j)))
      ((transport.setTimeout i span).runFrom w) ((transport.setTimeout j span).runFrom v) :=
  onSocket_alike h fun k _ _ => note_alike h (.setTimeout k.label span)

theorem send_alike (h : Alike name (some (i, j)) w v) (data : Bytes) :
    Meets (fun _ _ => Alike name (some (i, j))) (fun _ => Alike name (some (i, j)))
      ((transport.send i data).runFrom w) ((transport.send j data).runFrom v) := by
  refine onSocket_alike h fun k _ _ => ?_
  have hset := setSocket_alike h { k with sends := k.sends.tail }
  rw [Act.runFrom_bind_ok (setSocket_runFrom i _ w), Act.runFrom_bind_ok (setSocket_runFrom j _ v)]
  rcases k.sends.head? with _ | _ | f
  · exact note_alike hset _
  · exact note_alike hset _
  · exact ⟨rfl, hset⟩

theorem consume_alike (h : Alike name (some (i, j)) w v) (n : Nat) :
    Meets (fun _ _ => Alike name (some (i, j))) (fun _ => Alike name (some (i, j)))
      ((transport.consume i n).runFrom w) ((transport.consume j n).runFrom v) :=
  onSocket_alike h fun k _ _ => setSocket_alike h { k with arrivals := k.arrivals.drop n }

theorem close_alike (h : Alike name (some (i, j)) w v) :
    Meets (fun _ _ => Alike name (some (i, j))) (fun _ => Alike name (some (i, j)))
      ((transport.close i).runFrom w) ((transport.close j).runFrom v) := by
  refine onSocket_alike h fun k _ _ => ?_
  rw [Act.runFrom_bind_ok (note_runFrom _ w), Act.runFrom_bind_ok (note_runFrom _ v)]
  rcases k.closing with _ | f
  · exact ⟨h.scripts, h.socket⟩
  · exact ⟨rfl, h.scripts, h.socket⟩

theorem arrivals_alike (h : Alike name (some (i, j)) w v) :
    transport.arrivals i w = transport.arrivals j v := by
  rcases h.socket i j rfl with ⟨k, hw, hv⟩
  change (w.sockets[i]?.map (·.arrivals)).getD [] = (v.sockets[j]?.map (·.arrivals)).getD []
  rw [hw, hv]

end

/-- A call that a client of an endpoint may make: it takes no scripts of other endpoints, and
    changes no sockets that have been there but the one it is made on. -/
structure Minds (name : Text) (c : SocketCall ScriptedWorld) : Prop where
  others : ∀ other, other ≠ name → c.after.endpoints.lookup other = c.before.endpoints.lookup other
  size : c.before.sockets.size ≤ c.after.sockets.size
  sockets : ∀ id, id < c.before.sockets.size → c.effect.concerned? ≠ some id →
    c.after.sockets[id]? = c.before.sockets[id]?
  opened : ∀ id, c.effect.opened? = some id →
    id = c.before.sockets.size ∧ id < c.after.sockets.size
  added : ∀ id, c.before.sockets.size ≤ id → id < c.after.sockets.size →
    c.effect.opened? = some id

section

variable {name : Text} {w v : ScriptedWorld} {effect : SocketCall.Effect}

theorem Minds.of_eq (hendpoints : v.endpoints = w.endpoints) (hsockets : v.sockets = w.sockets)
    (hopened : effect.opened? = none) : Minds name ⟨w, v, effect⟩ where
  others other _ := by rw [hendpoints]
  size := Nat.le_of_eq (congrArg Array.size hsockets).symm
  sockets id _ _ := by rw [hsockets]
  opened id hid := by
    rw [hopened] at hid
    cases hid
  added id hle hlt := by
    rw [hsockets] at hlt
    exact (Nat.not_lt.mpr hle hlt).elim

theorem Minds.of_set {id : SocketId} {k : ScriptedSocket} (hendpoints : v.endpoints = w.endpoints)
    (hsockets : v.sockets = w.sockets.setIfInBounds id k) : Minds name ⟨w, v, .uses id⟩ where
  others other _ := by rw [hendpoints]
  size := Nat.le_of_eq ((congrArg Array.size hsockets).trans Array.size_setIfInBounds).symm
  sockets id' _ hid' := by
    rw [hsockets]
    exact Array.getElem?_setIfInBounds_ne fun h => hid' (congrArg some h)
  opened id' hid' := nomatch hid'
  added id' hle hlt := by
    rw [hsockets, Array.size_setIfInBounds] at hlt
    exact (Nat.not_lt.mpr hle hlt).elim

theorem onSocket_minds {id : SocketId} {a : ScriptedSocket → Act ScriptedWorld Unit}
    (hopened : effect.opened? = none) (ha : ∀ k, Minds name ⟨w, ((a k).runFrom w).2, effect⟩) :
    Minds name ⟨w, ((onSocket id a).runFrom w).2, effect⟩ := by
  rw [onSocket_runFrom]
  rcases w.sockets[id]? with _ | k
  · exact .of_eq rfl rfl hopened
  · exact ha k

end

/-- Clients of scripted endpoints make no other calls. -/
theorem transport_calls (host : Text) (port : Port) :
    transport.Calls host port (Minds (host ++ ":" ++ Text.ofInt port)) where
  note o w := .of_eq rfl rfl rfl
  connect span w := by
    change Minds _ ⟨w, ((connect host port span).runFrom w).2,
      Among.opening ((connect host port span).runFrom w).1⟩
    rw [connect_runFrom]
    generalize host ++ ":" ++ Text.ofInt port = name
    rcases hw : takeScript name w.endpoints with _ | ⟨s, es⟩
    · exact .of_eq rfl rfl rfl
    · rcases takeScript_some hw with ⟨-, hothers⟩
      dsimp only
      rcases s.connecting with _ | f
      · refine ⟨hothers, ?_, ?_, ?_, ?_⟩
        · exact Array.size_push _ ▸ Nat.le_succ _
        · exact fun id hid _ => Array.getElem?_push_lt hid ▸ (Array.getElem?_eq_getElem hid).symm
        · rintro id hid
          cases hid
          exact ⟨rfl, Array.size_push _ ▸ Nat.lt_succ_self _⟩
        · intro id hle hlt
          -- There is just one name between the sizes before and after.
          rw [Array.size_push] at hlt
          exact congrArg some (Nat.le_antisymm hle (Nat.le_of_lt_succ hlt))
      · exact ⟨hothers, Nat.le_refl _, fun _ _ _ => rfl, (fun _ hid => nomatch hid),
          fun _ hle hlt => (Nat.not_lt.mpr hle hlt).elim⟩
  setTimeout id span w := onSocket_minds rfl fun k => .of_eq rfl rfl rfl
  send id data w := onSocket_minds rfl fun k => by
    rw [Act.runFrom_bind_ok (setSocket_runFrom id _ w)]
    rcases k.sends.head? with _ | _ | f
    · exact .of_set rfl rfl
    · exact .of_set rfl rfl
    · exact .of_set rfl rfl
  consume id n w := onSocket_minds rfl fun k => .of_set rfl rfl
  close id w := onSocket_minds rfl fun k => by
    rw [Act.runFrom_bind_ok (note_runFrom _ w)]
    rcases k.closing with _ | f
    · exact .of_eq rfl rfl rfl
    · exact .of_eq rfl rfl rfl

end ScriptedWorld

end MockHost
