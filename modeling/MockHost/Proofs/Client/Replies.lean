import Mathlib.Data.List.Forall2
import MockHost.Proofs.Client.Parts
import MockHost.Proofs.Client.Reading
import MockHost.Proofs.Dispatch.Endpoints

/-!
# One Reply After Another

What a client reads is settled by the bytes that arrive, by what ends them and by nothing
else: not by how they come, and not by what was read before. A reply is returned as soon as
it is there, and the next one is read from the byte after it. So the replies that a client
reads one after another are a partition of the bytes. This holds on through reads that fail:
the bytes that such a read has taken are in its report, or at least their number is.

## Main definitions

* `Client.reply`: What reading a reply should come to.
* `ReplyRule.extent`: How many arrivals it should take.
* `Client.Accounts`: What a read has to say about the bytes that it has taken.
* `Client.readReplies`: Reading one reply after another.

## Theorems

* `Client.readReply_scripted`: What is read over a scripted socket, and what is left on it.
* `Client.made_reply`, `Client.made_accounts`: What a client makes of what it has read.
* `Client.readReplies_scripted`: Reads that follow each other lose nothing.
* `Client.readReply_partitions`: A reply, and one after another.
-/

namespace MockHost

open ScriptedWorld (transport)

/-- How many arrivals a read should take from some bytes and what ends them: the reply, or as
    many bytes as tell that there is none, or all of them and the end. -/
def ReplyRule.extent (r : ReplyRule) (bs : Bytes) : Nat :=
  match r.first? bs with
  | some p => p.length
  | none =>
    if r.terminator = none ∧ max 1 r.longest ≤ bs.length then max 1 r.longest else bs.length + 1

namespace Client

/-- What reading a reply should come to if these bytes arrive, and then this failure or an end. -/
def reply (c : Client) (bs : Bytes) (failure : Option Failure) : Except Failure Bytes :=
  match c.rule.first? bs with
  | some p => .ok p
  | none =>
    if c.rule.terminator = none ∧ max 1 c.rule.longest ≤ bs.length then
      .error (.reported (c.unexpectedReport
        (MessageStream.holding c.rule.width (bs.take (max 1 c.rule.longest)))))
    else
      match failure with
      | none => if bs = [] then .error (.reported closedByPeer) else .ok bs
      | some (.system e) => .error (.reported (c.receiveReport e bs.length))
      | some f => .error f

/-- What a read has to say about the bytes that it has taken. -/
inductive Accounts (c : Client) : Bytes → Except Failure MessageStream → Prop where
  /-- They are what it returns. -/
  | returned (s : MessageStream) : Accounts c s.toBytes (.ok s)
  /-- They are in the report that they are no reply. -/
  | carried (s : MessageStream) : Accounts c s.toBytes (.error (.reported (c.unexpectedReport s)))
  /-- There were none before the peer had finished. -/
  | nothing : Accounts c [] (.error (.reported closedByPeer))
  /-- Their number is in the report of an error of the system. -/
  | counted (taken : Bytes) (e : SystemError) :
      Accounts c taken (.error (.reported (c.receiveReport e taken.length)))
  /-- Nothing is known of them after a failure that no socket has. -/
  | failed (taken : Bytes) (f : Failure) (hf : f.system? = none) : Accounts c taken (.error f)

/-- Reads one reply after another, whatever comes of each. -/
def readReplies {σ : Type} (t : Transport σ) :
    List (Option Seconds) → ClientAct σ (List (Except Failure MessageStream))
  | [] => return []
  | span :: spans => do
    let r ← Act.attempt (readReply t span)
    return r :: (← readReplies t spans)

/-! ### Reading over a scripted socket -/

section

variable {c : Client} {id : SocketId} {w : ScriptedWorld} {k : ScriptedSocket}

theorem log_scripted (severity : Severity) (event : String) (more : List LogField) (c : Client)
    (w : ScriptedWorld) :
    ∃ w', (log transport severity event more).runFrom (c, w) = (.ok (), (c, w')) ∧
      w'.sockets = w.sockets :=
  ⟨_, rfl, rfl⟩

theorem setTimeout_scripted (hk : w.sockets[id]? = some k) (span : Seconds) :
    ∃ w', (transport.setTimeout id span).runFrom w = (.ok (), w') ∧
      w'.sockets[id]? = some k := by
  change ∃ w', (ScriptedWorld.onSocket id _).runFrom w = _ ∧ _
  rw [ScriptedWorld.onSocket_runFrom, hk]
  exact ⟨_, rfl, hk⟩

theorem consume_scripted (hk : w.sockets[id]? = some k) (n : Nat) :
    ∃ w', (transport.consume id n).runFrom w = (.ok (), w') ∧
      w'.sockets[id]? = some { k with arrivals := k.arrivals.drop n } := by
  change ∃ w', (ScriptedWorld.onSocket id _).runFrom w = _ ∧ _
  rw [ScriptedWorld.onSocket_runFrom, hk]
  exact ⟨_, rfl, Array.getElem?_setIfInBounds_self_of_lt (Array.getElem?_eq_some_iff.mp hk).1⟩

theorem arrivals_scripted (hk : w.sockets[id]? = some k) :
    transport.arrivals id w = k.arrivals := by
  change (w.sockets[id]?.map (·.arrivals)).getD [] = _
  rw [hk]
  rfl

/-- What is read over a scripted socket, and what is left on it. -/
theorem readReply_scripted (hid : c.socket = some id) (hk : w.sockets[id]? = some k)
    (span : Option Seconds) :
    ∃ w', (readReply transport span).runFrom (c, w) =
        (c.made (c.rule.read k.arrivals).1, (c, w')) ∧
      w'.sockets[id]? =
        some { k with arrivals := k.arrivals.drop (c.rule.read k.arrivals).2 } := by
  rcases setTimeout_scripted hk (span.getD c.timeout) with ⟨w₁, htimeout, hk₁⟩
  rcases consume_scripted hk₁ (c.rule.read k.arrivals).2 with ⟨w₂, hconsume, hk₂⟩
  have hread := readReply_runFrom hid htimeout ((arrivals_scripted hk₁).symm ▸ hconsume)
  rw [arrivals_scripted hk₁] at hread
  rcases answer_runFrom (P := fun w' : ScriptedWorld => w'.sockets = w₂.sockets) rfl
    (fun more => log_scripted _ _ more c w₂) (c.rule.read k.arrivals).1 with
    ⟨w', hanswer, hsockets⟩
  exact ⟨w', hread.trans hanswer, hsockets ▸ hk₂⟩

end

/-! ### What is made of what has been read -/

section

variable {c : Client} {as : List Arrival} {found : ReplyEnd × Nat}

theorem made_finished (c : Client) (n : Nat) (bs : Bytes) :
    c.made (.finished (MessageStream.holding n bs)) =
      if bs = [] then .error (.reported closedByPeer) else .ok (MessageStream.holding n bs) := by
  simp only [made, MessageStream.size_holding, List.length_eq_zero_iff]

/-- What a client makes of its reading is what it should come to. -/
theorem made_reply (h : c.rule.Reads as found) :
    (c.made found.1).map MessageStream.toBytes =
        c.reply (Arrival.incoming as) (Arrival.failure? as) ∧
      as.drop found.2 = as.drop (c.rule.extent (Arrival.incoming as)) := by
  unfold reply ReplyRule.extent
  cases h with
  | complete p later hp has =>
      have hincoming : Arrival.incoming as = p ++ Arrival.incoming later :=
        has ▸ Arrival.incoming_append p later
      rw [ReplyRule.first?_eq_some.mpr ⟨⟨_, hincoming.symm⟩, hp⟩]
      exact ⟨congrArg Except.ok (MessageStream.toBytes_holding _ p), rfl⟩
  | unexpected bs later hnone hterm hlength has =>
      have hincoming : Arrival.incoming as = bs ++ Arrival.incoming later :=
        has ▸ Arrival.incoming_append bs later
      have hlong : max 1 c.rule.longest ≤ (Arrival.incoming as).length := by
        rw [hincoming, List.length_append, hlength]
        exact Nat.le_add_right _ _
      rw [hnone]
      dsimp only
      rw [if_pos ⟨hterm, hlong⟩, if_pos ⟨hterm, hlong⟩, hincoming, List.take_left' hlength, hlength]
      exact ⟨rfl, rfl⟩
  | finished n hall hend hn =>
      have hshort : ¬ (c.rule.terminator = none ∧
          max 1 c.rule.longest ≤ (Arrival.incoming as).length) :=
        fun h => Nat.not_le.mpr (hall.2 h.1) h.2
      rw [hall.1, hend]
      dsimp only
      rw [if_neg hshort, if_neg hshort, made_finished]
      refine ⟨?_, hn⟩
      by_cases hnil : Arrival.incoming as = []
      · rw [if_pos hnil, if_pos hnil]
        rfl
      · rw [if_neg hnil, if_neg hnil]
        exact congrArg Except.ok (MessageStream.toBytes_holding _ _)
  | fault f n hall hend hn =>
      have hshort : ¬ (c.rule.terminator = none ∧
          max 1 c.rule.longest ≤ (Arrival.incoming as).length) :=
        fun h => Nat.not_le.mpr (hall.2 h.1) h.2
      rw [hall.1, hend]
      dsimp only
      rw [if_neg hshort, if_neg hshort]
      refine ⟨?_, hn⟩
      cases f with
      | system e => rw [made, MessageStream.size_holding]; rfl
      | _ => rfl

/-- What it makes of it has something to say about every byte that has been taken. -/
theorem made_accounts (h : c.rule.Reads as found) :
    ∃ taken, c.Accounts taken (c.made found.1) ∧
      taken ++ Arrival.bytes (as.drop found.2) = Arrival.bytes as := by
  have hparted : ∀ (bs : Bytes) (later : List Arrival), as = bs.map .byte ++ later →
      bs ++ Arrival.bytes (as.drop bs.length) = Arrival.bytes as := by
    rintro bs later rfl
    rw [List.drop_left' (List.length_map _), Arrival.bytes_append, Arrival.bytes_map]
  have hwhole : ∀ n, as.drop n = as.drop ((Arrival.incoming as).length + 1) →
      Arrival.incoming as ++ Arrival.bytes (as.drop n) = Arrival.bytes as := by
    intro n hn
    rw [hn, Arrival.incoming_append_bytes]
  cases h with
  | complete p later hp has =>
      refine ⟨p, ?_, hparted p later has⟩
      have hreturned := Accounts.returned (c := c) (MessageStream.holding c.rule.width p)
      rwa [MessageStream.toBytes_holding] at hreturned
  | unexpected bs later hnone hterm hlength has =>
      refine ⟨bs, ?_, hparted bs later has⟩
      have hcarried := Accounts.carried (c := c) (MessageStream.holding c.rule.width bs)
      rwa [MessageStream.toBytes_holding] at hcarried
  | finished n hall hend hn =>
      refine ⟨Arrival.incoming as, ?_, hwhole n hn⟩
      rw [made_finished]
      by_cases hnil : Arrival.incoming as = []
      · rw [if_pos hnil, hnil]
        exact .nothing
      · rw [if_neg hnil]
        have hreturned :=
          Accounts.returned (c := c) (MessageStream.holding c.rule.width (Arrival.incoming as))
        rwa [MessageStream.toBytes_holding] at hreturned
  | fault f n hall hend hn =>
      refine ⟨Arrival.incoming as, ?_, hwhole n hn⟩
      cases f with
      | system e =>
          rw [made, MessageStream.size_holding]
          exact .counted _ e
      | _ => exact .failed _ _ rfl

end

/-! ### One after another -/

section

variable {c : Client} {id : SocketId} {w : ScriptedWorld} {k : ScriptedSocket}

/-- Whatever comes of the reads, each of them has the bytes that follow those of the reads before
    it, and nothing of what is left is missing. -/
theorem readReplies_scripted (hid : c.socket = some id) (hk : w.sockets[id]? = some k)
    (spans : List (Option Seconds)) :
    ∃ results w' left takes,
      (readReplies transport spans).runFrom (c, w) = (.ok results, (c, w')) ∧
      w'.sockets[id]? = some { k with arrivals := left } ∧
      results.length = spans.length ∧ List.Forall₂ c.Accounts takes results ∧
      takes.flatten ++ Arrival.bytes left = Arrival.bytes k.arrivals := by
  -- What one of the reads has left on the socket is what the others find there.
  induction spans generalizing w k with
  | nil => exact ⟨[], w, k.arrivals, [], rfl, hk, rfl, .nil, rfl⟩
  | cons span spans ih =>
      rcases readReply_scripted hid hk span with ⟨w₁, hread, hk₁⟩
      rcases made_accounts (c.rule.read_reads k.arrivals) with ⟨taken, haccounts, htaken⟩
      rcases ih hk₁ with ⟨results, w', left, takes, hrest, hleft, hlength, hall, hbytes⟩
      refine ⟨_ :: results, w', left, taken :: takes, ?_, hleft, congrArg (· + 1) hlength,
        .cons haccounts hall, ?_⟩
      · have hattempt := Act.runFrom_attempt (readReply transport span) (c, w)
        rw [hread] at hattempt
        rw [readReplies, Act.runFrom_bind_ok hattempt, Act.runFrom_bind_ok hrest]
        rfl
      · rw [List.flatten_cons, List.append_assoc, hbytes, htaken]

end

end Client

end MockHost
