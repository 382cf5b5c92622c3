import MockHost.Connection.Reading

/-!
# Links

A link joins a client to the side of a server. Each end has an inbox of bytes that
have arrived; it ends when the other end is shut down or closed, and what has
arrived before can still be read.

## Main definitions

* `LinkEnd`, `Link`: The two ends of a link.
* `Link.send?`, `Link.shutdown?`, `Link.finish?`, `Link.close`: What one end can do.
* `Link.receive`: What one read on the side of the server gives.
* `Link.arrivals`: What the client may read.
-/

namespace MockHost

/-- The number of a link in a network. -/
abbrev LinkId := Nat

/-- The number of a connection in a network. -/
abbrev ConnectionId := Nat

/-- One end of a link. -/
structure LinkEnd where
  /-- Bytes that have arrived and have not been read. -/
  inbox : Bytes := []
  /-- Nothing more arrives. -/
  ended : Bool := false
  /-- Nothing more can be sent. -/
  mute : Bool := false
  closed : Bool := false
  deriving DecidableEq, Repr

/-- The two sides of a link. -/
inductive Side where
  | client
  | server
  deriving DecidableEq, Repr

/-- The side across. -/
def Side.across : Side → Side
  | .client => .server
  | .server => .client

/-- A link between a client and a server. -/
structure Link where
  /-- The port of the client. -/
  clientPort : Port
  client : LinkEnd := {}
  server : LinkEnd := {}
  /-- What the next reads on the side of the server come to, whatever has arrived. -/
  injected : List Reception := []
  /-- The next shutdown on the side of the server wakes nobody. -/
  busy : Bool := false
  /-- The connection that serves the client, once it has been accepted. -/
  connection : Option ConnectionId := none

namespace Link

/-- The end on one side. -/
def onSide (l : Link) : Side → LinkEnd
  | .client => l.client
  | .server => l.server

/-- A link with one end changed. -/
def modifySide (l : Link) (f : LinkEnd → LinkEnd) : Side → Link
  | .client => { l with client := f l.client }
  | .server => { l with server := f l.server }

/-- Sends from one side. What is sent after the other side has closed breaks. -/
def send? (l : Link) (side : Side) (data : Bytes) : Except SystemError Link :=
  let own := l.onSide side
  if own.closed then .error (.numbered 9)
  else if own.mute || (l.onSide side.across).closed then .error (.numbered 32)
  else .ok (l.modifySide (fun e => { e with inbox := e.inbox ++ data }) side.across)

/-- Nothing more arrives on one side. -/
def endSide (l : Link) (side : Side) : Link := l.modifySide (fun e => { e with ended := true }) side

/-- Ends sending from one side. -/
def finish? (l : Link) (side : Side) : Except SystemError Link :=
  if (l.onSide side).closed then .error (.numbered 9)
  else .ok ((l.modifySide (fun e => { e with mute := true }) side).endSide side.across)

/-- Ends sending and receiving on one side. -/
def shutdown? (l : Link) (side : Side) : Except SystemError Link :=
  (l.finish? side).map fun l => l.endSide side

/-- Closes one side. -/
def close (l : Link) (side : Side) : Link :=
  if (l.onSide side).closed then l
  else (l.modifySide (fun e => { e with closed := true }) side).endSide side.across

/-- What one read of at most `size` bytes on the side of the server gives, and the link
    after it; nothing where the read has to wait. -/
def receive (l : Link) (size : Nat) : Option (Reception × Link) :=
  match l.injected with
  | r :: rest => some (r, { l with injected := rest })
  | [] =>
    if l.server.closed then some (.fault (.system (.numbered 9)), l)
    else if !l.server.inbox.isEmpty then
      some (.data (l.server.inbox.take size),
        l.modifySide (fun e => { e with inbox := e.inbox.drop size }) .server)
    else if l.server.ended then some (.data [], l)
    else none

/-- What successive reads of one byte by the client give. A client never waits longer than
    for what has arrived. -/
def arrivals (l : Link) : List Arrival :=
  if l.client.closed then [.fault (.system (.numbered 9))]
  else l.client.inbox.map .byte ++
    [if l.client.ended then .finished else .fault (.system .timedOut)]

/-- The link after the client has read `n` bytes. -/
def consume (l : Link) (n : Nat) : Link :=
  l.modifySide (fun e => { e with inbox := e.inbox.drop n }) .client

end Link

end MockHost
