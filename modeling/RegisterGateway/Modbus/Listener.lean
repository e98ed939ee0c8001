import RegisterGateway.Access.IpFilter
import RegisterGateway.Modbus.Stream

/-!
# Modbus listeners

A listener admits a peer if its filter allows the address and fewer connections are open than
its limit; every other peer is turned away at once. An admitted connection holds its slot
until it ends, whichever way it ends, and what it sends is served in order.
-/

namespace RegisterGateway.Modbus

/-- A listener of one port. -/
structure Listener where
  resolver : Resolver
  filter : Access.IpFilter := {}
  limit : Nat := 32
  isAccepting : Bool := true
  connections : Net.Connections := {}
  deriving DecidableEq

/-- What happens at a listener. -/
inductive ListenerEvent where
  /-- A peer connects. -/
  | arrival (peer : Access.Address)
  /-- Bytes arrive on a connection. -/
  | received (connection : Nat) (bytes : List UInt8)
  /-- A peer closes its connection. -/
  | closed (connection : Nat)
  /-- A connection can no longer be read or written. -/
  | broken (connection : Nat)
  deriving DecidableEq, Repr

namespace Listener

/-- The largest limit that a listener can count down from. -/
def maxLimit : Nat := 0x1FFFFFFFFFFFFFFF

/-- The listener for a limit; a limit that is too large to be counted ends the program. -/
def make? (resolver : Resolver) (filter : Access.IpFilter) (limit : Nat) : Option Listener :=
  if limit ≤ maxLimit then some { resolver := resolver, filter := filter, limit := limit }
  else none

def admits (listener : Listener) (peer : Access.Address) : Bool :=
  listener.filter.allows peer && listener.connections.live < listener.limit

def withConnections (listener : Listener) (connections : Net.Connections) : Listener :=
  { listener with connections := connections }

/-- The listener after it has stopped: it takes no further connection, and those that are
open go on. -/
def stop (listener : Listener) : Listener :=
  { listener with isAccepting := false }

def accept (listener : Listener) (peer : Access.Address) (plant : Plant) :
    Net.Outcome × Listener × Plant :=
  if !listener.isAccepting then (.unheard, listener, plant)
  else if listener.admits peer then
    let (number, connections) := listener.connections.add
    (.admitted number, listener.withConnections connections, plant.record .modbusConnection)
  else (.refused, listener, plant.record .modbusConnectionRefused)

/-- Goes on with an open connection. -/
def proceed (listener : Listener) (connection : Nat) (plant : Plant)
    (serving : List UInt8 → Plant → Net.Served) : Net.Outcome × Listener × Plant :=
  let (outcome, connections, after) := listener.connections.proceed connection plant serving
  (outcome, listener.withConnections connections, after)

/-- What a listener does upon an event, and what the event leaves. -/
def step (listener : Listener) (plant : Plant) (event : ListenerEvent) :
    Net.Outcome × Listener × Plant :=
  match event with
  | .arrival peer => listener.accept peer plant
  | .received connection bytes =>
      listener.proceed connection plant (fun waiting =>
        serve listener.resolver (waiting ++ bytes))
  -- An incomplete request is dropped.
  | .closed connection | .broken connection =>
      listener.proceed connection plant (fun _ => .ended)

end Listener

end RegisterGateway.Modbus
