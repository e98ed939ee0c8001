import RegisterGateway.Net.Connections
import RegisterGateway.Plant

/-!
# Serving open connections

What arrives on a connection is served as far as it goes: bytes are sent in reply, bytes wait
for more, and the connection goes on or has ended.
-/

namespace RegisterGateway.Net

/-- What has come of some bytes: the bytes that are sent in reply, the plant after them, the
bytes that wait for more, and whether the connection goes on. -/
structure Served where
  replies : List UInt8
  plant : Plant
  waiting : List UInt8
  goesOn : Bool
  deriving DecidableEq

namespace Served

/-- A connection that ends without a reply. -/
def ended (plant : Plant) : Served :=
  ⟨[], plant, [], false⟩

@[simp] theorem goesOn_ended (plant : Plant) : (ended plant).goesOn = false := rfl

/-- A reply in front of what else is served. -/
def behind (served : Served) (reply : List UInt8) : Served :=
  { served with replies := reply ++ served.replies }

/-- What is served goes on, with what waits and the plant as it is left, unless it has ended. -/
def andThen (served : Served) (next : List UInt8 → Plant → Served) : Served :=
  if served.goesOn then (next served.waiting served.plant).behind served.replies else served

end Served

/-- Goes on with an open connection, given the bytes that wait in it. -/
def Connections.proceed (connections : Connections) (number : Nat) (plant : Plant)
    (serving : List UInt8 → Plant → Served) : Outcome × Connections × Plant :=
  match connections.waiting? number with
  | none => (.unheard, connections, plant)
  | some waiting =>
      let served := serving waiting plant
      (.served served.replies served.goesOn,
        connections.settle number served.goesOn served.waiting, served.plant)

end RegisterGateway.Net
