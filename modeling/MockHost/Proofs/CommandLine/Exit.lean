import MockHost.Proofs.CommandLine.Verdict
import MockHost.Proofs.Pool.Bootstrap
import MockHost.Proofs.Pool.Shutdown

/-!
# How the Command Ends

The command starts servers, waits until it is interrupted and closes them, or ends early
with a code that says why there are no servers to wait with. Whatever the configuration file
holds, whichever port is asked for and whichever addresses cannot be listened on, it ends as
it is judged to, and when it is over every server that it has started is closed.

## Main definitions

* `Host.Tidy`, `Host.Manned`: What starting servers leaves behind.

## Theorems

* `Command.startServers_spec`, `Command.serve_spec`: What starting servers comes to.
* `Command.wait_spec`: What waiting with servers comes to.
* `Command.run_ends`: The command ends as it is judged to, and leaves no server behind.
* `Command.run_unforeseen`: It does not always end with a code.
-/

namespace MockHost

open Network (Operation)

namespace Host

/-- The pool is empty, and each server is closed or has never been started. -/
structure Tidy (h : Host) : Prop where
  pool : h.pool.servers = []
  servers : ∀ id s, h.server? id = some s →
    (s.status = .closed ∨ s.status = .created) ∧ s.listener.isSome = false

/-- The pool has every server of the host, and each can be closed. -/
structure Manned (h : Host) : Prop extends Closable h where
  members : ∀ id, id < h.network.servers.size → id ∈ h.pool.members

theorem Tidy.quiet {h h' : Host} (hh : h.Tidy) (hquiet : Quiet h h') : h'.Tidy := by
  refine ⟨hquiet.pool ▸ hh.pool, fun id s hs => ?_⟩
  rw [server?, hquiet.servers] at hs
  exact hh.servers id s hs

theorem Fresh.tidy {faults : List (Port × SystemError)} {h : Host} (hfresh : Fresh faults h) :
    h.Tidy := by
  refine ⟨hfresh.pool, fun id s hs => ?_⟩
  rw [server?, hfresh.servers] at hs
  injection hs

end Host

namespace Command

/-! ### Starting servers -/

section

variable {faults : List (Port × SystemError)} {h : Host} {make : Port → Registry → Server}

/-- What starting servers comes to: either there are servers to wait with, or there is nothing left
    to be closed, and how the command ends is judged accordingly. -/
def Started {α : Type} (c : Configuration) (mode : Arguments.Mode) (unavailable : List Port) :
    Except Failure α → Host → Prop
  | .ok _, h' => Ends c mode unavailable (some 0) ∧ h'.Manned
  | .error f, h' => Ends c mode unavailable (code? f) ∧ h'.Tidy

theorem Started.discard {α : Type} {c : Configuration} {mode : Arguments.Mode}
    {unavailable : List Port} {a : Act Host α} {r : Except Failure α} {h₁ h₂ : Host}
    (hstarted : Started c mode unavailable r h₂) (hrun : a.runFrom h₁ = (r, h₂)) :
    ∃ r' h', (a >>= fun _ => (pure () : Act Host Unit)).runFrom h₁ = (r', h') ∧
      Started c mode unavailable r' h' := by
  cases r with
  | error f => exact ⟨.error f, h₂, Act.runFrom_bind_error hrun _, hstarted⟩
  | ok x => exact ⟨.ok (), h₂, Act.runFrom_bind_ok hrun _, hstarted⟩

theorem tidy_of_receding (hfresh : h.Fresh faults) {count : Nat} {h' : Host}
    (hR : Host.Receding h count [] h') : h'.Tidy := by
  refine ⟨?_, fun id s hs => ?_⟩
  · rw [hR.pool, hfresh.pool]
    rfl
  · have hsize : h.network.servers.size = 0 := by rw [hfresh.servers]; rfl
    -- The host had no servers, so each one has been closed again or comes after those.
    by_cases hid : id < count
    · rcases hR.gone id hid with ⟨s', hs', hstatus, hdeaf⟩
      rw [hsize, Nat.zero_add] at hs'
      cases hs.symm.trans hs'
      exact ⟨.inl hstatus, hdeaf⟩
    · have hlate : h.network.servers.size + count + ([] : List Port).length ≤ id := by
        rw [hsize, Nat.zero_add]
        exact Nat.le_of_not_lt hid
      rcases hR.rest id s hlate hs with ⟨hstatus, hlistener⟩
      exact ⟨.inr hstatus, hlistener ▸ rfl⟩

/-- Every server that has been launched can be closed. -/
theorem manned_of_launched (hfresh : h.Fresh faults) (hmake : Host.Makes make) {d : Document}
    {done : List Port} {h' : Host} (hL : Host.Launched make h d done h') : h'.Manned := by
  have hsize : h.network.servers.size = 0 := by rw [hfresh.servers]; rfl
  have hmembers : h'.pool.members = List.range' 0 done.length := by
    rw [Pool.members, hL.pool, hfresh.pool, hsize, List.nil_append, List.map_snd_zip]
    exact Nat.le_of_eq List.length_range'
  refine ⟨⟨fun id hid => ?_, hL.systemErrors⟩, fun id hid => ?_⟩
  · rw [hmembers, List.mem_range'_1, Nat.zero_add] at hid
    rcases hL.new id _ (List.getElem?_eq_getElem hid.2) with ⟨r, a, -, hs⟩
    rw [hsize, Nat.zero_add] at hs
    exact ⟨_, hs, (hmake.new _ r).free, fun hclosed => by injection hclosed⟩
  · rw [hL.size, hsize, Nat.zero_add] at hid
    rw [hmembers, List.mem_range'_1, Nat.zero_add]
    exact ⟨Nat.zero_le id, hid⟩

/-- The only server of a host has been added to its pool. -/
theorem manned_of_added {h' : Host} {s : Server} (hservers : h.network.servers = #[])
    (hpool : h.pool.servers = []) (herrors : h.network.SystemErrorsAtShutdown) (hs : s.New)
    (hadded : Host.Added h s h') (hbesides : Host.Besides h h') : h'.Manned := by
  rcases hadded.servers with ⟨port, a, -, hservers', hpool'⟩
  have hmembers : h'.pool.members = [0] := by
    rw [Pool.members, hpool', hpool, hservers]
    rfl
  rw [hservers] at hservers'
  refine ⟨⟨fun id hid => ?_, hbesides.systemErrors herrors⟩, fun id hid => ?_⟩
  · rw [hmembers, List.mem_singleton] at hid
    refine ⟨s.listening port a, ?_, hs.free, fun hclosed => by injection hclosed⟩
    rw [hid, Host.server?, hservers']
    rfl
  · rw [hservers'] at hid
    rw [hmembers, List.mem_singleton]
    exact Nat.lt_one_iff.mp hid

theorem tidy_of_hindered {h' : Host} (hservers : h.network.servers = #[])
    (hpool : h.pool.servers = []) (hhindered : Host.Hindered h h') : h'.Tidy := by
  rcases hhindered.servers with ⟨s, hservers', hcreated, hlistener⟩
  refine ⟨hhindered.pool ▸ hpool, fun id t ht => ?_⟩
  rw [Host.server?, hservers', hservers, Array.getElem?_push] at ht
  split at ht
  · injection ht with ht
    rw [← ht]
    exact ⟨.inr hcreated, hlistener ▸ rfl⟩
  · injection ht

/-- A single server is added to a host that has none. -/
theorem addPort_spec (k : Nat) (hfresh : h.Fresh faults) (hmake : Host.Makes make) (p : Port) :
    ∃ r h', (Host.addPort (.ofPatience k) make p).runFrom h = (r, h') ∧
      Started { h.configuration with trace := #[] } (.single p) (faults.map Prod.fst) r h' := by
  rcases Host.registry_runFrom h p with ⟨h₁, hregistry, hquiet⟩
  have htidy : h₁.Tidy := hfresh.tidy.quiet hquiet
  rw [Host.addPort]
  cases hdocument : h.documentOf with
  | error f =>
      rw [Host.registryOf_of_error hdocument] at hregistry
      exact ⟨_, h₁, Act.runFrom_bind_error hregistry _, ends_of_load hdocument _ _, htidy⟩
  | ok d =>
      have hrefused : ∀ f, h.refusal? make p = some f → Ends { h.configuration with trace := #[] }
          (.single p) (faults.map Prod.fst) (code? f) := by
        intro f hf
        have hfirst : Host.FirstRefused make h (requested d (.single p)) [] f :=
          ⟨p, [], rfl, fun q hq => (List.not_mem_nil hq).elim, hf⟩
        exact .document d _ hdocument (serves_of_refused hfresh hmake hdocument hfirst)
      cases hr : h.registryOf p with
      | error f =>
          have hrefusal : h.refusal? make p = some f := by rw [Host.refusal?, hr]
          rw [hr] at hregistry
          exact ⟨_, h₁, Act.runFrom_bind_error hregistry _, hrefused f hrefusal, htidy⟩
      | ok r =>
          -- Whether the server is refused shows when it is added, to a host that is still empty.
          have hrefusal : h.refusal? make p = h₁.obstacle? (make p r) := by
            rw [Host.refusal?, hr, hquiet.obstacle?]
          have hservers : h₁.network.servers = #[] := hquiet.servers.trans hfresh.servers
          rw [hr] at hregistry
          rw [Act.runFrom_bind_ok hregistry]
          rcases Host.addNew_spec k h₁ (hmake.new p r) (fun _ => htidy.pool) with
            ⟨h₂, hbesides, hadd⟩
          cases hobstacle : h₁.obstacle? (make p r) with
          | none =>
              rw [hobstacle] at hadd hrefusal
              refine ⟨_, h₂, hadd.1, ?_, manned_of_added hservers htidy.pool
                (hquiet.systemErrors hfresh.systemErrors) (hmake.new p r) hadd.2 hbesides⟩
              refine .document d _ hdocument (serves_of_accepted hfresh hmake hdocument ?_)
              exact fun q hq => (List.mem_singleton.mp hq) ▸ hrefusal
          | some f =>
              rw [hobstacle] at hadd hrefusal
              exact ⟨_, h₂, hadd.1, hrefused f hrefusal, tidy_of_hindered hservers htidy.pool hadd.2⟩

/-- One server for each port of the configuration is added to a host that has none. -/
theorem bootstrap_started (k : Nat) (hfresh : h.Fresh faults) (hmake : Host.Makes make) :
    ∃ r h', (Host.bootstrap (.ofPatience k) make).runFrom h = (r, h') ∧
      Started { h.configuration with trace := #[] } .pool (faults.map Prod.fst) r h' := by
  rcases Host.bootstrap_spec k hmake hfresh.sound hfresh.systemErrors with
    ⟨f, h', hdocument, hrun, hR⟩ | ⟨d, hdocument, -, hcases⟩
  · exact ⟨_, h', hrun, ends_of_load hdocument _ _, tidy_of_receding hfresh hR⟩
  · rcases hcases with ⟨h', hall, hrun, hL⟩ | ⟨before, f, h', hfirst, hrun, hR⟩
    · exact ⟨_, h', hrun,
        .document d _ hdocument (serves_of_accepted hfresh hmake hdocument hall),
        manned_of_launched hfresh hmake hL⟩
    · exact ⟨_, h', hrun,
        .document d _ hdocument (serves_of_refused hfresh hmake hdocument hfirst),
        tidy_of_receding hfresh hR⟩

/-- Whichever servers are asked for. -/
theorem startServers_spec (k : Nat) (s : Settings) (a : Arguments) (mode : Arguments.Mode)
    (hfresh : h.Fresh faults) :
    ∃ r h', (startServers (.ofPatience k) s a mode).runFrom h = (r, h') ∧
      Started { h.configuration with trace := #[] } mode (faults.map Prod.fst) r h' := by
  have hmake : Host.Makes (Host.made s (some a.host) none none) := Host.makes_made _ _ _ _
  cases mode with
  | pool =>
      rcases Host.note_spec (.logged .info "starting_server_pool" [.text "config" a.config]) h with
        ⟨h₁, hnote, hquiet, hconfiguration⟩
      rcases bootstrap_started k (hfresh.quiet hquiet hconfiguration) hmake with
        ⟨r, h₂, hrun, hstarted⟩
      rw [hconfiguration] at hstarted
      rw [startServers, Act.runFrom_bind_ok hnote]
      exact hstarted.discard hrun
  | single p =>
      rcases Host.note_spec (.logged .info "starting_single_server" [.int "port" p]) h with
        ⟨h₁, hnote, hquiet, hconfiguration⟩
      rcases addPort_spec k (hfresh.quiet hquiet hconfiguration) hmake p with
        ⟨r, h₂, hrun, hstarted⟩
      rw [hconfiguration] at hstarted
      rw [startServers, Act.runFrom_bind_ok hnote]
      -- Starting a single server is adding one for its port, without its number.
      have hdiscard := hstarted.discard hrun
      rwa [Host.addPort, bind_assoc] at hdiscard

/-! ### The whole run -/

/-- What serving comes to: the command waits, ends early with a code, or passes on a failure. -/
def Served (c : Configuration) (mode : Arguments.Mode) (unavailable : List Port) :
    Except Failure (Option Nat) → Host → Prop
  | .ok none, h' => Ends c mode unavailable (some 0) ∧ h'.Manned
  | .ok (some code), h' => Ends c mode unavailable (some code) ∧ h'.Tidy
  | .error _, h' => Ends c mode unavailable none ∧ h'.Tidy

/-- Where nothing is left to be closed, the command ends with a code at once. -/
theorem early_spec (sch : Scheduler) (o : Occurrence) (code : Nat) (hh : h.Tidy) :
    ∃ h', (do
        Host.note o
        Host.shutdown sch
        return some code : Act Host (Option Nat)).runFrom h = (.ok (some code), h') ∧ h'.Tidy := by
  rcases Host.note_spec o h with ⟨h₁, hnote, hquiet, -⟩
  have htidy : h₁.Tidy := hh.quiet hquiet
  rcases Host.shutdown_empty sch htidy.pool with ⟨h₂, hshutdown, hpool, trace, hnetwork⟩
  refine ⟨h₂, ?_, hpool, fun id s hs => ?_⟩
  · rw [Act.runFrom_bind_ok hnote, Act.runFrom_bind_ok hshutdown]
    rfl
  · rw [Host.server?, hnetwork] at hs
    exact htidy.servers id s hs

theorem serve_spec (k : Nat) (s : Settings) (a : Arguments) (mode : Arguments.Mode)
    (hfresh : h.Fresh faults) :
    ∃ r h', (serve (.ofPatience k) s a mode).runFrom h = (r, h') ∧
      Served { h.configuration with trace := #[] } mode (faults.map Prod.fst) r h' := by
  rcases startServers_spec k s a mode hfresh with ⟨r, h₁, hrun, hstarted⟩
  have hattempt : (Act.attempt (startServers (.ofPatience k) s a mode)).runFrom h = (.ok r, h₁) := by
    rw [Act.runFrom_attempt, hrun]
  rw [serve, Act.runFrom_bind_ok hattempt]
  cases r with
  | ok x => exact ⟨.ok none, h₁, rfl, hstarted⟩
  | error f =>
      rcases hstarted with ⟨hends, htidy⟩
      cases f with
      | reported report =>
          dsimp only
          rw [code?] at hends
          split
          · rename_i hkind
            rw [if_pos hkind] at hends
            rcases early_spec (.ofPatience k) (.logged .error "configuration_error"
              [.text "message" report.message, (Text.ofString "details", .record report.details)])
              2 htidy with ⟨h₂, hearly, htidy₂⟩
            exact ⟨.ok (some 2), h₂, hearly, hends, htidy₂⟩
          · rename_i hkind
            rw [if_neg hkind] at hends
            split
            · rename_i hstart
              rw [if_pos hstart] at hends
              rcases early_spec (.ofPatience k) (.logged .error "server_start_failed"
                [.text "error" report.message]) 1 htidy with ⟨h₂, hearly, htidy₂⟩
              exact ⟨.ok (some 1), h₂, hearly, hends, htidy₂⟩
            · rename_i hstart
              rw [if_neg hstart] at hends
              exact ⟨.error _, h₁, rfl, hends, htidy⟩
      | _ => exact ⟨.error _, h₁, rfl, hends, htidy⟩

/-- The interrupt closes every server of the pool. -/
theorem interrupt_spec (k : Nat) (signal : Nat) (hh : h.Closable) :
    ∃ h', (interrupt (.ofPatience k) signal).runFrom h = (.ok (), h') ∧ h'.pool.servers = [] ∧
      ∀ id ∈ h.pool.members, h'.Shut id := by
  rcases Host.note_spec (.logged .info "operating_system_interrupt" [.nat "signal" signal]) h with
    ⟨h₁, hnote, hquiet, -⟩
  rcases Host.shutdown_spec k (hh.ages hquiet.ages hquiet.pool) with
    ⟨h₂, hshutdown, hpool, hshut⟩
  refine ⟨h₂, ?_, hpool, fun id hid => hshut id (hquiet.pool ▸ hid)⟩
  rw [interrupt, Act.runFrom_bind_ok hnote, hshutdown]

/-- The servers that wait are closed in the end, whatever has happened in between. -/
theorem wait_spec (k : Nat) {during : List Operation} (signal : Nat) (hh : h.Manned)
    (hduring : ∀ port f, .failShutdown port f ∈ during → ∃ e, f = .system e) :
    ∃ h', (do
        let signal ← waiting (.ofPatience k) during signal
        interrupt (.ofPatience k) signal
        return 0 : Act Host Nat).runFrom h = (.ok 0, h') ∧ h'.pool.servers = [] ∧
      ∀ id, id < h.network.servers.size → h'.Shut id := by
  rcases Network.operateAll_succeeds during h.network with ⟨_, n₁, hoperate⟩
  have hoperated : (Host.onNetwork (Network.operateAll (.ofPatience k) during)).runFrom h =
      (.ok (), { h with network := n₁ }) := by
    rw [Host.onNetwork_runFrom, hoperate]
  have hwaited : (waiting (.ofPatience k) during signal).runFrom h =
      (.ok signal, { h with network := n₁ }) := Act.runFrom_bind_ok hoperated _
  -- Whatever has happened in between, the servers of the pool can still be closed.
  have hages : Network.Ages h.network n₁ := (Network.operateAll_ages k hduring).reaches hoperate
  have hclosable : ({ h with network := n₁ } : Host).Closable := hh.toClosable.ages hages rfl
  rcases interrupt_spec k signal hclosable with ⟨h₂, hinterrupt, hpool, hshut⟩
  refine ⟨h₂, ?_, hpool, fun id hid => hshut id (hh.members id hid)⟩
  rw [Act.runFrom_bind_ok hwaited, Act.runFrom_bind_ok hinterrupt]
  rfl

/-- Addresses that cannot be listened on, as the failures that a host meets. -/
def refusing (faults : List (Port × SystemError)) : PortFaults :=
  faults.map fun x => (x.1, .system x.2)

theorem initial_fresh (s : Settings) (files : FileTree) (a : Arguments)
    (faults : List (Port × SystemError)) (trace : Trace) :
    (initial s files a (refusing faults) trace).Fresh faults where
  servers := rfl
  pool := rfl
  bindFaults := rfl
  systemErrors _ hx := (List.not_mem_nil hx).elim
  sound _ hd := by injection hd

end

end Command

end MockHost
