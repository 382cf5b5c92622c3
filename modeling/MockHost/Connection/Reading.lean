import MockHost.Connection.Cycle

/-!
# Reading messages

A connection reads what its peer sends, cuts it into messages and sees each one
through its cycle before it looks at the next. A message ends where the terminator
first occurs. Bytes after it are kept for the next message.

What one read of the socket gives is a `Reception`; reading is a step on receptions,
so that it may stop after any of them and go on later.

## Main definitions

* `Reception`: What one read of the socket of a peer gives.
* `Connection.work`: Works off received bytes.
* `Connection.begin`, `Connection.receive`: The start of reading, and one read.
* `Connection.takeIn`: Works off what one read gave.
* `Connection.conclude`: The end of the thread that serves a peer.
-/

namespace MockHost

/-- What one read of the socket of a peer gives. -/
inductive Reception where
  /-- Bytes; none at all when the peer has finished. -/
  | data (bs : Bytes)
  | fault (f : Failure)
  /-- The connection was closed during the wait, which then ended or failed. -/
  | closing (f : Option Failure)

/-- What one read failed with. -/
def Reception.fault? : Reception → Option Failure
  | .data _ => none
  | .fault f => some f
  | .closing f => f

namespace Connection

section

variable {σ : Type} (w : Surroundings σ)

/-- How many bytes of an incomplete message are logged. -/
def previewLength : Nat := 32

/-- The peer has finished; what it has sent of a message is discarded. -/
def finish (begun : MessageStream) : Act σ Unit := do
  if begun.size = 0 then log w .debug "connection_end_of_stream" []
  else
    log w .warning "incomplete_message_discarded"
      [.nat "size" begun.size, .text "preview" (Bytes.hex (begun.toBytes.take previewLength))]
  change w fun c => { c with status := .closed }

/-- Goes on to wait for the peer, part way through a message, unless the connection is to
    end. Gives the message part while there is something to wait for. -/
def proceed (begun : MessageStream) : Act σ (Option MessageStream) := do
  let c ← current w
  if c.closeRequested || !c.hasSocket then
    finish w begun
    return none
  else return some begun

/-- Works off received bytes after `begun`. If `single` is set reading stops after one
    complete message, otherwise when the connection is no longer open. -/
def work (single : Bool) (begun : MessageStream) : Bytes → Act σ (Option MessageStream)
  | [] => do
    change w fun c => { c with pending := [] }
    proceed w begun
  | b :: rest => do
    let s := begun.push b
    let c ← current w
    if s.isTerminated c.behavior.terminator then
      change w fun c => { c with pending := rest }
      complete w s
      let c ← current w
      if single || !c.isOpen then return none
      else work single c.freshStream rest
    else work single s rest

/-- Starts to read. Gives the message part while there is something to wait for. -/
def begin (single : Bool) : Act σ (Option MessageStream) := do
  let c ← current w
  if c.isOpen || single then work w single c.freshStream c.pending else return none

/-- Takes in what one read of the socket gave. A read that timed out is only logged, unless
    the connection is to end. -/
def takeIn (single : Bool) (begun : MessageStream) : Reception → Act σ (Option MessageStream)
  | .data [] => do
    finish w begun
    return none
  | .data bs => work w single begun bs
  | .fault f => do
    if f.isTimeout then
      let c ← current w
      if !c.closeRequested then
        log w .warning "connection_read_timeout" [.seconds "timeout_sec" c.readTimeout]
      proceed w begun
    else throw f
  | .closing f => do
    close w
    match f with
    | none => finish w begun
    | some f => if f.isTimeout then finish w begun else throw f
    return none

/-- One read of the socket. -/
def receive (single : Bool) (begun : MessageStream) (r : Reception) :
    Act σ (Option MessageStream) := do
  record w (.receive r.fault?)
  takeIn w single begun r

/-- Logs what ended the thread. -/
def reportEnd : Except Failure Unit → Act σ Unit
  | .ok () => return
  | .error f => do
    let cause := [LogField.text "error" f.message, .text "error_type" f.label]
    match f with
    | .system e =>
      if (← current w).closeRequested || e.meansClosed then
        log w .warning "connection_transport_closed" cause
      else log w .error "connection_io_error" (cause ++ [.withPlace])
    | _ => log w .error "connection_failed" (cause ++ [.withPlace])

/-- Calls the hooks at the end; a failure of one is only logged. -/
def notifyClosed : Act σ Unit := do
  match ← Act.attempt (callOnClose w) with
  | .ok () => return
  | .error f =>
    log w .error "on_close_hook_failed"
      [.text "error" f.message, .text "error_type" f.label, .withPlace]

/-- The end of the thread that serves the peer, with what ended it. -/
def conclude (r : Except Failure Unit) : Act σ Unit := do
  reportEnd w r
  change w fun c => { c with status := .closed }
  releaseSocket w
  notifyClosed w

end

end Connection

end MockHost
