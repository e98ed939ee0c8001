import RegisterGateway.RawIngest.Stream

/-!
# Ingest listeners

Every peer is admitted. A connection ends with its first rejected frame, when the peer closes,
when no frame is complete within the read timeout, and when the listener stops; only the last
of these ends it without a word on what waits.
-/

namespace RegisterGateway.RawIngest

/-- A listener. -/
structure Listener where
  settings : ListenerSettings
  isAccepting : Bool := true
  connections : Net.Connections := {}
  deriving DecidableEq, Repr

/-- What happens at a listener. -/
inductive ListenerEvent where
  /-- A peer connects. -/
  | arrival
  /-- Bytes arrive on a connection. -/
  | received (connection : Nat) (bytes : List UInt8)
  /-- A peer closes its connection. -/
  | closed (connection : Nat)
  /-- The read timeout passes on a connection. -/
  | silent (connection : Nat)
  /-- A connection can no longer be read. -/
  | unreadable (connection : Nat)
  /-- A reply can no longer be sent. -/
  | unwritable (connection : Nat)
  deriving DecidableEq, Repr

namespace Listener

def withConnections (listener : Listener) (connections : Net.Connections) : Listener :=
  { listener with connections := connections }

/-- The listener after it has stopped: it takes no further connection and closes those that
are open. -/
def stop (listener : Listener) : Listener :=
  { listener with isAccepting := false, connections := listener.connections.dropAll }

/-- A peer connects. -/
def accept (listener : Listener) : Net.Outcome × Listener :=
  if listener.isAccepting then
    let (number, connections) := listener.connections.add
    (.admitted number, listener.withConnections connections)
  else (.unheard, listener)

/-- Goes on with an open connection. -/
def proceed (listener : Listener) (connection : Nat) (plant : Plant)
    (serving : List UInt8 → Plant → Net.Served) : Net.Outcome × Listener × Plant :=
  let (outcome, connections, after) := listener.connections.proceed connection plant serving
  (outcome, listener.withConnections connections, after)

/-- What a listener does upon an event, and what the event leaves. -/
def step (listener : Listener) (plant : Plant) (event : ListenerEvent) :
    Net.Outcome × Listener × Plant :=
  match event with
  | .arrival =>
      let (outcome, listener) := listener.accept
      (outcome, listener, plant)
  | .received connection bytes =>
      listener.proceed connection plant (fun waiting =>
        serve listener.settings.maxPacketBytes (waiting ++ bytes))
  | .closed connection => listener.proceed connection plant close
  | .silent connection | .unreadable connection =>
      listener.proceed connection plant (fun _ => reject)
  | .unwritable connection => listener.proceed connection plant (fun _ => .ended)

end Listener

end RegisterGateway.RawIngest
