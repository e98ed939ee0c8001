import RegisterGateway.Proofs.Modbus.Connection
import RegisterGateway.Proofs.Net.Numbers

/-!
# What a Modbus listener does

An event at a listener admits a peer or turns it away, is about a connection that is not open,
serves what has been sent on one, or ends one. A connection ends when its peer closes it, when it
breaks, and at a header that no request may follow; `Listener.does_step` says that there is
nothing else.
-/

namespace RegisterGateway

/-- The counters of the peers that have been admitted, and of those that have been refused. -/
def Plant.peers (plant : Plant) : UInt64 × UInt64 :=
  (plant.counters.modbusConnections, plant.counters.modbusConnectionsRefused)

namespace Modbus

/-! ## Events -/

namespace ListenerEvent

/-- The connection that an event is about; a peer that connects has none yet. -/
def connection? : ListenerEvent → Option Nat
  | .arrival _ => none
  | .received connection _ | .closed connection | .broken connection => some connection

def isArrival : ListenerEvent → Bool
  | .arrival _ => true
  | .received .. | .closed _ | .broken _ => false

theorem isArrival_of_connection? {event : ListenerEvent} {number : Nat}
    (about : event.connection? = some number) : event.isArrival = false := by
  cases event with
  | arrival => cases about
  | received | closed | broken => rfl

end ListenerEvent

/-! ## Where a stream ends its connection -/

/-- A stream of requests behind which a header stands that no request may follow. -/
def IsMalformed (stream : List UInt8) : Prop :=
  ∃ (messages : List Message) (rest : List UInt8) (fault : MalformedFrame),
    stream = messages.flatMap Message.bytes ++ rest ∧ NoMessage rest (.malformed fault)

section Serving

variable {resolver : Resolver} {stream rest : List UInt8} {plant : Plant}

/-- The requests in front of a stream make no difference to its end. -/
theorem isMalformed_append_iff (messages : List Message) :
    IsMalformed (messages.flatMap Message.bytes ++ stream) ↔ IsMalformed stream := by
  constructor
  · rintro ⟨requests, rest, fault, parts, front⟩
    obtain ⟨others, left, divides⟩ := Divides.total stream
    have whole : Divides (messages.flatMap Message.bytes ++ stream) (messages ++ others) left :=
      ⟨by rw [divides.sent, List.flatMap_append, List.append_assoc], divides.exhausted⟩
    have given : Divides (messages.flatMap Message.bytes ++ stream) requests rest :=
      ⟨parts, fun _ _ => front.ne_bytes_append⟩
    obtain ⟨-, rfl⟩ := whole.unique given
    exact ⟨others, left, fault, divides.sent, front⟩
  · rintro ⟨requests, rest, fault, rfl, front⟩
    exact ⟨messages ++ requests, rest, fault, by rw [List.flatMap_append, List.append_assoc], front⟩

/-- What has come of a stream whose requests have been served: it goes on if too few bytes are
left for another one, and these wait. -/
theorem serve_of_front (resolver : Resolver) {found : Cut} (front : NoMessage rest found)
    (messages : List Message) (plant : Plant) :
    ((serve resolver (messages.flatMap Message.bytes ++ rest) plant).goesOn = true ↔
        found = .incomplete) ∧
      (found = .incomplete →
        (serve resolver (messages.flatMap Message.bytes ++ rest) plant).waiting = rest) := by
  induction messages generalizing plant with
  | nil =>
      have taken := cut_of_noMessage front
      rw [List.flatMap_nil, List.nil_append]
      cases front with
      | shortHeader | shortBody =>
          rw [serve_of_incomplete taken]
          exact ⟨by simp, fun _ => rfl⟩
      | otherProtocol | badLength =>
          rw [serve_of_malformed taken]
          exact ⟨by simp, nofun⟩
  | cons message later ih =>
      rw [List.flatMap_cons, List.append_assoc, serve_bytes_append]
      exact ih _

/-- Serving ends a connection at a malformed header, and nowhere else. -/
theorem goesOn_serve_eq_false_iff :
    (serve resolver stream plant).goesOn = false ↔ IsMalformed stream := by
  constructor
  · intro ends
    obtain ⟨messages, rest, divides⟩ := Divides.total stream
    obtain ⟨found, front⟩ := divides.noMessage
    have goesOn := (serve_of_front resolver front messages plant).1
    rw [← divides.sent, ends] at goesOn
    cases front with
    | shortHeader | shortBody => exact absurd (goesOn.2 rfl) Bool.false_ne_true
    | otherProtocol other sent => exact ⟨messages, rest, _, divides.sent, .otherProtocol other sent⟩
    | badLength protocolId outside sent =>
        exact ⟨messages, rest, _, divides.sent, .badLength protocolId outside sent⟩
  · rintro ⟨messages, rest, fault, rfl, front⟩
    refine Bool.eq_false_iff.2 fun goesOn => ?_
    have incomplete := (serve_of_front resolver front messages plant).1.1 goesOn
    contradiction

/-- What waits once everything has been served is the rest of the stream behind some requests. -/
theorem exists_served_of_goesOn (goesOn : (serve resolver stream plant).goesOn = true) :
    ∃ messages : List Message,
      stream = messages.flatMap Message.bytes ++ (serve resolver stream plant).waiting := by
  obtain ⟨messages, rest, divides⟩ := Divides.total stream
  obtain ⟨found, front⟩ := divides.noMessage
  have served := serve_of_front resolver front messages plant
  rw [← divides.sent] at served
  rw [served.2 (served.1.1 goesOn)]
  exact ⟨messages, divides.sent⟩

end Serving

/-! ## What a listener does -/

/-- The events with which a connection ends, given what has been sent on it: its peer closes it, it
breaks, or a header arrives that no request may follow. -/
inductive ListenerEvent.Ends (stream : List UInt8) : ListenerEvent → Prop where
  | closed (number : Nat) : Ends stream (.closed number)
  | broken (number : Nat) : Ends stream (.broken number)
  | malformed (number : Nat) {bytes : List UInt8} (malformed : IsMalformed (stream ++ bytes)) :
      Ends stream (.received number bytes)

/-- The requests in front of a stream make no difference to what ends its connection. -/
theorem ListenerEvent.ends_append_iff {event : ListenerEvent} {messages : List Message}
    {stream : List UInt8} :
    event.Ends (messages.flatMap Message.bytes ++ stream) ↔ event.Ends stream := by
  constructor
  · rintro (number | number | ⟨number, malformed⟩)
    · exact .closed number
    · exact .broken number
    · rw [List.append_assoc, isMalformed_append_iff] at malformed
      exact .malformed number malformed
  · rintro (number | number | ⟨number, malformed⟩)
    · exact .closed number
    · exact .broken number
    · apply Ends.malformed
      rwa [List.append_assoc, isMalformed_append_iff]

theorem peers_serve (resolver : Resolver) (stream : List UInt8) (plant : Plant) :
    (serve resolver stream plant).plant.peers = plant.peers := by
  obtain ⟨messages, rest, divides⟩ := Divides.total stream
  rw [(serve_of_divides divides plant).2, counters_of_events]
  rfl

namespace Listener

@[simp] theorem connections_withConnections (listener : Listener)
    (connections : Net.Connections) :
    (listener.withConnections connections).connections = connections := rfl

/-- What a listener that accepts peers can do upon an event. -/
inductive Does (listener : Listener) (plant : Plant) :
    ListenerEvent → Net.Outcome × Listener × Plant → Prop where
  /-- A peer takes a free slot, under a number that has not been given before. -/
  | admits {peer : Access.Address} (allowed : listener.filter.allows peer = true)
      (free : listener.connections.live < listener.limit) :
      Does listener plant (.arrival peer)
        (.admitted listener.connections.opened,
          listener.withConnections listener.connections.add.2, plant.record .modbusConnection)
  /-- A peer is kept out by the filter, or finds no free slot. -/
  | refuses {peer : Access.Address}
      (turnedAway : listener.filter.allows peer = false ∨
        listener.limit ≤ listener.connections.live) :
      Does listener plant (.arrival peer)
        (.refused, listener, plant.record .modbusConnectionRefused)
  /-- Nothing comes of what happens on a connection that is not open. -/
  | ignores {event : ListenerEvent} {number : Nat} (about : event.connection? = some number)
      (isClosed : listener.connections.waiting? number = none) :
      Does listener plant event (.unheard, listener, plant)
  /-- Bytes are served, and some of them may wait for more. -/
  | serves {number : Nat} {bytes waiting : List UInt8} {served : Net.Served}
      (isOpen : listener.connections.waiting? number = some waiting)
      (served_eq : serve listener.resolver (waiting ++ bytes) plant = served)
      (goesOn : served.goesOn = true) :
      Does listener plant (.received number bytes)
        (.served served.replies true,
          listener.withConnections (listener.connections.keep number served.waiting),
          served.plant)
  /-- A connection ends, and gives its slot back. -/
  | ends {event : ListenerEvent} {number : Nat} {waiting replies : List UInt8} {after : Plant}
      (about : event.connection? = some number)
      (isOpen : listener.connections.waiting? number = some waiting)
      (ends : event.Ends waiting) (samePeers : after.peers = plant.peers) :
      Does listener plant event
        (.served replies false,
          listener.withConnections (listener.connections.drop number), after)

theorem does_step {listener : Listener} (accepting : listener.isAccepting = true) (plant : Plant)
    (event : ListenerEvent) : listener.Does plant event (listener.step plant event) := by
  have released (number : Nat) (about : event.connection? = some number)
      (ends : ∀ waiting, event.Ends waiting) :
      listener.Does plant event (listener.proceed number plant fun _ => .ended) := by
    cases isOpen : listener.connections.waiting? number with
    | none =>
        rw [proceed, Net.Connections.proceed_of_closed isOpen]
        exact .ignores about isOpen
    | some waiting =>
        rw [proceed, Net.Connections.proceed_of_open isOpen]
        exact .ends about isOpen (ends waiting) rfl
  cases event with
  | arrival peer =>
      have turns : listener.step plant (.arrival peer) =
          if listener.admits peer then
            (.admitted listener.connections.opened,
              listener.withConnections listener.connections.add.2, plant.record .modbusConnection)
          else (.refused, listener, plant.record .modbusConnectionRefused) := by
        simp only [step, accept, accepting]
        rfl
      rw [turns]
      split
      · rename_i admitted
        obtain ⟨allowed, free⟩ : listener.filter.allows peer = true ∧
            listener.connections.live < listener.limit := by
          simpa [admits] using admitted
        exact .admits allowed free
      · rename_i refused
        apply Does.refuses
        simpa [admits, imp_iff_not_or] using refused
  | received number bytes =>
      cases isOpen : listener.connections.waiting? number with
      | none =>
          rw [step, proceed, Net.Connections.proceed_of_closed isOpen]
          exact .ignores rfl isOpen
      | some waiting =>
          rw [step, proceed, Net.Connections.proceed_of_open isOpen, Net.Connections.settle]
          cases goesOn : (serve listener.resolver (waiting ++ bytes) plant).goesOn with
          | true => exact .serves isOpen rfl goesOn
          | false =>
              exact .ends rfl isOpen (.malformed number (goesOn_serve_eq_false_iff.1 goesOn))
                (peers_serve _ _ plant)
  | closed number => exact released number rfl fun _ => .closed number
  | broken number => exact released number rfl fun _ => .broken number

end Listener

end Modbus

end RegisterGateway
