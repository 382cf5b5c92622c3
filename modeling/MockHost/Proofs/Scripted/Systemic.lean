import MockHost.Proofs.Client.Account
import MockHost.Proofs.Client.Sending
import MockHost.Proofs.Dispatch.Endpoints

/-!
# Scripts with Errors of the System

A script may let a call on a socket fail in whatever way. Sockets themselves fail with errors of
the system. A world whose scripts have no other faults is still such a world after any call, for
what a script has said of a socket stays with the socket once it has been connected.

## Main definitions

* `Script.Systemic`, `ScriptedSocket.Systemic`, `ScriptedWorld.Systemic`: All faults are errors of
  the system.

## Theorems

* `ScriptedWorld.transport_systemErrors`: The sockets of such a world fail with errors of the system
  only.
-/

namespace MockHost

/-- All faults of the script are errors of the system. -/
structure Script.Systemic (s : Script) : Prop where
  received : ∀ f, .fault f ∈ s.arrivals → ∃ e, f = .system e
  sends : ∀ f, some f ∈ s.sends → ∃ e, f = .system e
  connecting : ∀ f, s.connecting = some f → ∃ e, f = .system e
  closing : ∀ f, s.closing = some f → ∃ e, f = .system e

/-- All faults that a socket has still to come are errors of the system. -/
structure ScriptedSocket.Systemic (k : ScriptedSocket) : Prop where
  arrivals : ∀ f, .fault f ∈ k.arrivals → ∃ e, f = .system e
  sends : ∀ f, some f ∈ k.sends → ∃ e, f = .system e
  closing : ∀ f, k.closing = some f → ∃ e, f = .system e

theorem Script.Systemic.toSocket {s : Script} (h : s.Systemic) (label : Text) :
    (s.toSocket label).Systemic :=
  ⟨h.received, h.sends, h.closing⟩

namespace ScriptedWorld

open Act (SystemErrorsOnly SystemErrorEnd)

/-- All faults of the scripts and the sockets of the world are errors of the system. -/
structure Systemic (w : ScriptedWorld) : Prop where
  scripts : ∀ name scripts, w.endpoints.lookup name = some scripts → ∀ s ∈ scripts, s.Systemic
  sockets : ∀ (id : SocketId) (k : ScriptedSocket), w.sockets[id]? = some k → k.Systemic

/-- How many sockets have been connected. -/
def connected (w : ScriptedWorld) : Nat := w.sockets.size

variable {w : ScriptedWorld} {k : ScriptedSocket} {id : SocketId}

theorem Systemic.setSocket (h : w.Systemic) (hk : k.Systemic) (id : SocketId) :
    Systemic { w with sockets := w.sockets.setIfInBounds id k } where
  scripts := h.scripts
  sockets id' k' hk' := by
    rw [Array.getElem?_setIfInBounds] at hk'
    split at hk'
    · split at hk'
      · injection hk' with hk'
        exact hk' ▸ hk
      · injection hk'
    · exact h.sockets id' k' hk'

/-- The script that is taken was there before, and so were the scripts that are left. -/
theorem Systemic.take {name : Text} {script : Script} {endpoints : List (Text × List Script)}
    (h : w.Systemic) (htake : takeScript name w.endpoints = some (script, endpoints)) :
    script.Systemic ∧ Systemic { w with endpoints } := by
  rcases takeScript_some htake with ⟨⟨more, hbefore, hafter⟩, hothers⟩
  have hall := h.scripts name _ hbefore
  refine ⟨hall script List.mem_cons_self, fun other scripts hother s hs => ?_, h.sockets⟩
  by_cases hname : other = name
  · rw [hname, hafter] at hother
    injection hother with hother
    exact hall s (List.mem_cons_of_mem _ (hother ▸ hs))
  · rw [hothers other hname] at hother
    exact h.scripts other scripts hother s hs

theorem connect_systemErrors (host : Text) (port : Port) (span : Seconds) :
    SystemErrorsOnly Systemic connected (connect host port span) := by
  intro w h
  rw [connect_runFrom]
  rcases htake : takeScript (host ++ ":" ++ Text.ofInt port) w.endpoints with _ | ⟨script, _⟩
  · exact ⟨⟨h.scripts, h.sockets⟩, Nat.le_refl _, fun _ hf => ⟨_, (Except.error.inj hf).symm⟩⟩
  · rcases h.take htake with ⟨hscript, hleft⟩
    dsimp only
    rcases hconnecting : script.connecting with _ | f
    · refine ⟨⟨hleft.scripts, fun id k hk => ?_⟩, ?_, fun _ hf => nomatch hf⟩
      · dsimp only at hk
        rw [Array.getElem?_push] at hk
        split at hk
        · injection hk with hk
          exact hk ▸ hscript.toSocket _
        · exact h.sockets id k hk
      · exact (Nat.le_succ _).trans (Array.size_push _).ge
    · exact ⟨⟨hleft.scripts, h.sockets⟩, Nat.le_refl _,
        fun _ hg => hscript.connecting _ (Except.error.inj hg ▸ hconnecting)⟩

/-- A socket is named by how many there were before. -/
theorem connect_named {host : Text} {port : Port} {span : Seconds} :
    ((connect host port span).runFrom w).1 = .ok id →
      id = w.connected ∧ w.connected < ((connect host port span).runFrom w).2.connected := by
  rw [connect_runFrom]
  rcases takeScript (host ++ ":" ++ Text.ofInt port) w.endpoints with _ | ⟨script, _⟩
  · exact fun hok => nomatch hok
  · dsimp only
    rcases script.connecting with _ | f
    · exact fun hok => ⟨(Except.ok.inj hok).symm,
        Nat.lt_of_lt_of_eq (Nat.lt_succ_self _) (Array.size_push _).symm⟩
    · exact fun hok => nomatch hok

theorem onSocket_systemErrors {a : ScriptedSocket → Act ScriptedWorld Unit}
    (ha : ∀ k, k.Systemic → SystemErrorsOnly Systemic connected (a k)) :
    SystemErrorsOnly Systemic connected (onSocket id a) := by
  intro w h
  rw [onSocket_runFrom]
  rcases hk : w.sockets[id]? with _ | k
  · exact ⟨h, Nat.le_refl _, fun _ hf => nomatch hf⟩
  · exact ha k (h.sockets id k hk) w h

theorem note_systemErrors (o : Occurrence) : SystemErrorsOnly Systemic connected (note o) :=
  fun _ h => ⟨⟨h.scripts, h.sockets⟩, Nat.le_refl _, fun _ hf => nomatch hf⟩

theorem setSocket_systemErrors (hk : k.Systemic) (id : SocketId) :
    SystemErrorsOnly Systemic connected (setSocket id k) :=
  fun _ h => ⟨h.setSocket hk id, (Array.size_setIfInBounds ..).symm.le, fun _ hf => nomatch hf⟩

/-- The sockets of a world with such scripts fail with errors of the system only. -/
theorem transport_systemErrors : transport.SystemErrorsOnly Systemic connected where
  note := note_systemErrors
  noted _ _ := rfl
  connect := connect_systemErrors
  named _ _ _ _ _ _ hok := connect_named hok
  setTimeout _ span := onSocket_systemErrors fun k _ => note_systemErrors (.setTimeout k.label span)
  timed id span w := by
    change ((onSocket id _).runFrom w).1 = _
    rw [onSocket_runFrom]
    rcases w.sockets[id]? with _ | k <;> rfl
  send id data := onSocket_systemErrors fun k hk w h => by
    have hset := setSocket_systemErrors (k := { k with sends := k.sends.tail })
      ⟨hk.arrivals, fun f hf => hk.sends f (List.mem_of_mem_tail hf), hk.closing⟩ id w h
    rw [Act.runFrom_bind_ok (setSocket_runFrom id _ w)]
    rcases hhead : k.sends.head? with _ | _ | f
    · exact ⟨⟨hset.stays.scripts, hset.stays.sockets⟩, hset.keeps, fun _ hf => nomatch hf⟩
    · exact ⟨⟨hset.stays.scripts, hset.stays.sockets⟩, hset.keeps, fun _ hf => nomatch hf⟩
    · exact ⟨hset.stays, hset.keeps, fun g hg =>
        hk.sends g (Except.error.inj hg ▸ List.mem_of_mem_head? hhead)⟩
  arrivals id w f h hf := by
    change _ ∈ (w.sockets[id]?.map (·.arrivals)).getD [] at hf
    rcases hk : w.sockets[id]? with _ | k <;> rw [hk] at hf
    · exact absurd hf List.not_mem_nil
    · exact (h.sockets id k hk).arrivals f hf
  consume id n := onSocket_systemErrors fun k hk =>
    setSocket_systemErrors (k := { k with arrivals := k.arrivals.drop n })
      ⟨fun f hf => hk.arrivals f (List.mem_of_mem_drop hf), hk.sends, hk.closing⟩ id
  consumed id n w := by
    change ((onSocket id _).runFrom w).1 = _
    rw [onSocket_runFrom]
    rcases w.sockets[id]? with _ | k <;> rfl
  close id := onSocket_systemErrors fun k hk w h => by
    have hnoted := note_systemErrors (.close k.label) w h
    rw [Act.runFrom_bind_ok (note_runFrom _ w)]
    rcases hclosing : k.closing with _ | f
    · exact ⟨hnoted.stays, hnoted.keeps, fun _ hf => nomatch hf⟩
    · exact ⟨hnoted.stays, hnoted.keeps,
        fun g hg => hk.closing g (Except.error.inj hg ▸ hclosing)⟩

end ScriptedWorld

end MockHost
