import RegisterGateway.Net.Serving
import RegisterGateway.Proofs.Sequence

/-!
# Streams that arrive in pieces

The bytes of a stream arrive in pieces that are cut anywhere. A server takes one unit after the
other off the front and lets wait what is no whole unit yet. Whatever the pieces are, all of them
together come to what the stream as a whole comes to: `Protocol.ended_of_waiting` says so of the
listeners of any protocol whose server looks at the front of a stream only.
-/

namespace RegisterGateway.Net

/-- The bytes that are sent upon an event. -/
def Outcome.replies : Outcome → List UInt8
  | .served replies _ => replies
  | .refused | .admitted _ | .unheard => []

namespace Served

theorem behind_andThen (served : Served) (reply : List UInt8)
    (next : List UInt8 → Plant → Served) :
    (served.behind reply).andThen next = (served.andThen next).behind reply := by
  obtain ⟨replies, plant, waiting, goesOn⟩ := served
  cases goesOn with
  | false => rfl
  | true => simp [andThen, behind]

theorem andThen_of_ended {served : Served} (ended : served.goesOn = false)
    (next : List UInt8 → Plant → Served) : served.andThen next = served := by
  rw [andThen, ended]
  rfl

theorem andThen_assoc (served : Served) (next later : List UInt8 → Plant → Served) :
    (served.andThen next).andThen later =
      served.andThen fun waiting plant => (next waiting plant).andThen later := by
  obtain ⟨replies, plant, waiting, goesOn⟩ := served
  cases goesOn with
  | false => rfl
  | true => exact behind_andThen (next waiting plant) replies later

/-- A connection that ends without a reply changes nothing of what has been served. -/
theorem andThen_ended (served : Served) :
    (served.andThen fun _ => ended).replies = served.replies ∧
      (served.andThen fun _ => ended).plant = served.plant := by
  obtain ⟨replies, plant, waiting, goesOn⟩ := served
  cases goesOn with
  | false => exact ⟨rfl, rfl⟩
  | true => exact ⟨List.append_nil replies, rfl⟩

end Served

/-! ## Servers of streams -/

section Servers

variable {serve : List UInt8 → Plant → Served} {bytes : List UInt8} {plant : Plant}

/-- Bytes that wait for more, whatever the plant is. -/
def Waits (serve : List UInt8 → Plant → Served) (bytes : List UInt8) : Prop :=
  ∀ plant, serve bytes plant = ⟨[], plant, bytes, true⟩

/-- What a server does with bytes at the front of a stream. -/
inductive Takes (serve : List UInt8 → Plant → Served) (bytes : List UInt8) (plant : Plant) :
    Prop where
  | waits (waits : Waits serve bytes)
  /-- A unit is answered whatever follows it, and what follows is served behind the reply. -/
  | answers {rest reply : List UInt8} {next : Plant} (shorter : rest.length < bytes.length)
      (answers : ∀ more, serve (bytes ++ more) plant = (serve (rest ++ more) next).behind reply)
  /-- The connection ends, whatever follows. -/
  | ends {last : Served} (ended : last.goesOn = false)
      (ends : ∀ more, serve (bytes ++ more) plant = last)

/-- A server that goes by the front of a stream. -/
def GoesByFront (serve : List UInt8 → Plant → Served) : Prop :=
  ∀ bytes plant, Takes serve bytes plant

/-- What is left to wait goes on to wait until more arrives. -/
theorem GoesByFront.waits (goesByFront : GoesByFront serve)
    (goesOn : (serve bytes plant).goesOn = true) : Waits serve (serve bytes plant).waiting := by
  induction size : bytes.length using Nat.strongRecOn generalizing bytes plant with
  | ind length ih =>
      subst size
      cases goesByFront bytes plant with
      | waits waits => rwa [waits plant]
      | @answers rest reply next shorter answers =>
          have alone : serve bytes plant = (serve rest next).behind reply := by
            simpa using answers []
          rw [alone] at goesOn ⊢
          exact ih rest.length shorter goesOn rfl
      | @ends last ended ends =>
          have alone : serve bytes plant = last := by simpa using ends []
          rw [alone, ended] at goesOn
          contradiction

/-- A stream may be served in two parts. -/
theorem GoesByFront.append (goesByFront : GoesByFront serve) (bytes more : List UInt8)
    (plant : Plant) :
    serve (bytes ++ more) plant =
      (serve bytes plant).andThen fun waiting => serve (waiting ++ more) := by
  induction size : bytes.length using Nat.strongRecOn generalizing bytes plant with
  | ind length ih =>
      subst size
      cases goesByFront bytes plant with
      | waits waits =>
          rw [waits plant]
          rfl
      | @answers rest reply next shorter answers =>
          have alone : serve bytes plant = (serve rest next).behind reply := by
            simpa using answers []
          rw [answers more, alone, Served.behind_andThen, ih rest.length shorter rest next rfl]
      | @ends last ended ends =>
          have alone : serve bytes plant = last := by simpa using ends []
          rw [ends more, alone, Served.andThen_of_ended ended]

end Servers

/-! ## Pieces at a listener -/

namespace Connections

variable {connections : Connections} {number : Nat}

theorem proceed_of_open {waiting : List UInt8}
    (isOpen : connections.waiting? number = some waiting) (plant : Plant)
    (serving : List UInt8 → Plant → Served) :
    connections.proceed number plant serving =
      (.served (serving waiting plant).replies (serving waiting plant).goesOn,
        connections.settle number (serving waiting plant).goesOn (serving waiting plant).waiting,
        (serving waiting plant).plant) := by
  simp only [proceed, isOpen]

/-- Nothing is heard on a connection that is not open. -/
theorem proceed_of_closed (isClosed : connections.waiting? number = none) (plant : Plant)
    (serving : List UInt8 → Plant → Served) :
    connections.proceed number plant serving = (.unheard, connections, plant) := by
  simp only [proceed, isClosed]

end Connections

/-- How the listeners of a protocol serve their connections: what arrives is served by the front of
the stream, behind what waits, and a peer that closes ends its connection. -/
structure Protocol (Listener Event : Type) where
  /-- What a listener does upon an event. -/
  step : Listener → Plant → Event → Outcome × Listener × Plant
  connections : Listener → Connections
  withConnections : Listener → Connections → Listener
  received : Nat → List UInt8 → Event
  closed : Nat → Event
  serve : Listener → List UInt8 → Plant → Served
  /-- What is done with bytes that still wait as a peer closes. -/
  close : List UInt8 → Plant → Served
  connections_with : ∀ listener changed, connections (withConnections listener changed) = changed
  serve_with : ∀ listener changed, serve (withConnections listener changed) = serve listener
  step_received : ∀ listener plant number bytes,
    step listener plant (received number bytes) =
      let (outcome, changed, after) := (connections listener).proceed number plant
        fun waiting => serve listener (waiting ++ bytes)
      (outcome, withConnections listener changed, after)
  step_closed : ∀ listener plant number,
    step listener plant (closed number) =
      let (outcome, changed, after) := (connections listener).proceed number plant close
      (outcome, withConnections listener changed, after)
  goesByFront : ∀ listener, GoesByFront (serve listener)
  ended_close : ∀ waiting plant, (close waiting plant).goesOn = false

namespace Protocol

variable {Listener Event : Type} (protocol : Protocol Listener Event)

/-- What a listener does upon an event, the plant being part of the state. -/
def hear (event : Event) (state : Listener × Plant) : Outcome × Listener × Plant :=
  protocol.step state.1 state.2 event

/-- The events of a connection on which some pieces arrive before the peer closes it. -/
def arrivals (number : Nat) (pieces : List (List UInt8)) : List Event :=
  pieces.map (protocol.received number) ++ [protocol.closed number]

/-- What has come of the events of a connection: the bytes sent, the plant, and that the connection
is no longer open. -/
structure Ended (number : Nat) (replies : List UInt8) (plant : Plant)
    (events : List Outcome × Listener × Plant) : Prop where
  replies : events.1.flatMap Outcome.replies = replies
  plant : events.2.2 = plant
  isClosed : (protocol.connections events.2.1).waiting? number = none

variable {listener : Listener} {number : Nat}

theorem hear_received {waiting bytes : List UInt8} {plant : Plant} {served : Served}
    (isOpen : (protocol.connections listener).waiting? number = some waiting)
    (comes : protocol.serve listener (waiting ++ bytes) plant = served) :
    protocol.hear (protocol.received number bytes) (listener, plant) =
      (.served served.replies served.goesOn,
        protocol.withConnections listener
          ((protocol.connections listener).settle number served.goesOn served.waiting),
        served.plant) := by
  rw [hear, protocol.step_received, Connections.proceed_of_open isOpen, comes]

/-- Nothing is sent on a connection that is not open. -/
theorem ended_of_closed (isClosed : (protocol.connections listener).waiting? number = none)
    (pieces : List (List UInt8)) (plant : Plant) :
    protocol.Ended number [] plant
      (sequence protocol.hear (protocol.arrivals number pieces) (listener, plant)) := by
  induction pieces generalizing listener with
  | nil =>
      rw [arrivals, List.map_nil, List.nil_append, sequence_cons, hear, protocol.step_closed,
        Connections.proceed_of_closed isClosed]
      exact ⟨rfl, rfl, by rwa [sequence, protocol.connections_with]⟩
  | cons piece rest ih =>
      rw [arrivals, List.map_cons, List.cons_append, sequence_cons, hear, protocol.step_received,
        Connections.proceed_of_closed isClosed]
      have stillClosed : (protocol.connections (protocol.withConnections listener
          (protocol.connections listener))).waiting? number = none := by
        rwa [protocol.connections_with]
      have later := ih stillClosed
      exact ⟨later.replies, later.plant, later.isClosed⟩

/-- A connection in which bytes wait for more is served as the stream of these bytes and of the
pieces that arrive, up to its end. -/
theorem ended_of_waiting {waiting : List UInt8}
    (isOpen : (protocol.connections listener).waiting? number = some waiting)
    (waits : Waits (protocol.serve listener) waiting) (pieces : List (List UInt8))
    (plant : Plant) :
    let served := (protocol.serve listener (waiting ++ pieces.flatten) plant).andThen protocol.close
    protocol.Ended number served.replies served.plant
      (sequence protocol.hear (protocol.arrivals number pieces) (listener, plant)) := by
  -- On the pieces: what is left between two of them waits for more.
  induction pieces generalizing listener waiting plant with
  | nil =>
      have isClosed := Connections.waiting?_settle_self isOpen false
        (protocol.close waiting plant).waiting
      rw [arrivals, List.map_nil, List.nil_append, sequence_cons, hear, protocol.step_closed,
        Connections.proceed_of_open isOpen, List.flatten_nil, List.append_nil, waits plant,
        protocol.ended_close]
      exact ⟨List.append_nil _, rfl, by rwa [sequence, protocol.connections_with]⟩
  | cons piece rest ih =>
      rw [arrivals, List.map_cons, List.cons_append, sequence_cons,
        protocol.hear_received isOpen rfl, List.flatten_cons, ← List.append_assoc,
        (protocol.goesByFront listener).append, Served.andThen_assoc]
      have left : (protocol.serve listener (waiting ++ piece) plant).goesOn = true → Waits _ _ :=
        (protocol.goesByFront listener).waits
      generalize protocol.serve listener (waiting ++ piece) plant = first at left ⊢
      have next : (protocol.connections (protocol.withConnections listener
          ((protocol.connections listener).settle number first.goesOn first.waiting))).waiting?
            number = if first.goesOn then some first.waiting else none := by
        rw [protocol.connections_with, Connections.waiting?_settle_self isOpen]
      cases goesOn : first.goesOn with
      | false =>
          rw [goesOn] at next
          rw [Served.andThen_of_ended goesOn]
          have silent := protocol.ended_of_closed next rest first.plant
          exact ⟨(congrArg _ silent.replies).trans (List.append_nil _), silent.plant,
            silent.isClosed⟩
      | true =>
          rw [goesOn, if_pos rfl] at next
          rw [Served.andThen, goesOn, if_pos rfl]
          have later := ih next (protocol.serve_with listener _ ▸ left goesOn) first.plant
          rw [protocol.serve_with] at later
          exact ⟨congrArg _ later.replies, later.plant, later.isClosed⟩

end Protocol

end RegisterGateway.Net
