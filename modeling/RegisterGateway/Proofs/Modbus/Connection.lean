import RegisterGateway.Modbus.Listener
import RegisterGateway.Proofs.Modbus.Conformance
import RegisterGateway.Proofs.Modbus.Framing
import RegisterGateway.Proofs.Net.Streams

/-!
# Modbus connections

A peer sends a stream of requests and closes. The stream is cut into messages; each is answered by
one message, on the memories as the earlier ones have left them, and what follows the last whole
message is neither answered nor carried out. By `goesByFront_serve` a stream may arrive in pieces
that are cut anywhere, and so it makes no difference whether a peer waits for each response.
-/

namespace RegisterGateway.Modbus

open Net (Served Waits GoesByFront)

/-! ## The length of responses -/

namespace Grammar

theorem length_shown_le {area : Area} {cells : List area.Cell}
    (few : cells.length ≤ if area.isBit then 2000 else 125) :
    (shown area cells).length ≤ 251 := by
  cases area with
  | coils | discreteInputs =>
      simp only [Area.isBit, if_true] at few
      rw [shown, List.length_cons, Wire.length_bytesOfBits, Wire.packedSize]
      omega
  | holdingRegisters | inputRegisters =>
      simp only [Area.isBit, Bool.false_eq_true, if_false] at few
      simp only [shown, List.length_cons, List.length_flatMap, List.length_nil, List.map_const',
        List.sum_replicate_nat]
      omega

theorem length_response {code : UInt8} {data : List UInt8} {store : Store}
    (fine : exception? code data store = none) :
    1 ≤ (response code data store).length ∧ (response code data store).length ≤ 253 := by
  unfold response
  split
  · rename_i reads
    have small := length_shown_le (length_read_le fine reads)
    rw [List.length_cons]
    omega
  · rw [List.length_cons, List.length_take]
    omega

end Grammar

/-- A response has at least one byte, and no more than a message can carry. -/
theorem length_answerBy (reach : Reach) (unit : UInt8) (request : List UInt8)
    (registry : Registry) :
    1 ≤ (answerBy reach unit request registry).1.length ∧
      (answerBy reach unit request registry).1.length ≤ 253 := by
  rcases answerBy_cases reach unit request registry with
    ⟨code, fault, turnedDown⟩ | ⟨code, data, key, store, -, -, -, answered⟩
  · rw [turnedDown]
    exact ⟨by simp [exceptionResponse], by simp [exceptionResponse]⟩
  · rw [answered, answerAt_eq, Grammar.answerAt]
    cases fine : Grammar.exception? code data store with
    | none => exact Grammar.length_response fine
    | some number => exact ⟨by simp [Grammar.outcome], by simp [Grammar.outcome]⟩

/-! ## Exchanges -/

/-- The response to a request, with the ids of the request, and the registry after it. -/
def exchange (resolver : Resolver) (request : Message) (registry : Registry) :
    Message × Registry :=
  ({ transactionId := request.transactionId
     unitId := request.unitId
     body := (answer resolver request.unitId request.body registry).1
     nonempty := (length_answerBy _ _ _ registry).1
     short := (length_answerBy _ _ _ registry).2 },
    (answer resolver request.unitId request.body registry).2)

/-- What is counted for an exchange, going by its response. -/
def Message.events (response : Message) : List CountedEvent :=
  .modbusRequest :: if isException response.body then [.modbusException] else []

/-- The plant after an exchange. -/
def afterExchange (resolver : Resolver) (request : Message) (plant : Plant) : Plant :=
  ⟨(exchange resolver request plant.registry).2,
    plant.counters.recordAll (exchange resolver request plant.registry).1.events⟩

theorem respond_eq (resolver : Resolver) (request : Message) (plant : Plant) :
    respond resolver request.header request.body plant =
      ((exchange resolver request plant.registry).1.bytes,
        afterExchange resolver request plant) := by
  refine Prod.ext ?_ ?_
  · rw [Message.bytes_eq]
    rfl
  · cases exceptional :
        isException (answer resolver request.unitId request.body plant.registry).1 <;>
      simp [respond, afterExchange, exchange, Message.events, Message.header, exceptional,
        Plant.record, Plant.withRegistry, Counters.recordAll]

/-- Requests are counted one by one, and so are exceptions. -/
theorem counters_of_events (counters : Counters) (responses : List Message) :
    counters.recordAll (responses.flatMap Message.events) =
      { counters with
        modbusRequests := counters.modbusRequests + UInt64.ofNat responses.length
        modbusExceptions := counters.modbusExceptions +
          UInt64.ofNat (responses.countP fun response => isException response.body) } := by
  induction responses generalizing counters with
  | nil => simp [Counters.recordAll]
  | cons response rest ih =>
      rw [List.flatMap_cons, Counters.recordAll_append, ih]
      cases exceptional : isException response.body with
      | true =>
          simp [Message.events, exceptional, Counters.recordAll, Counters.record,
            UInt64.ofNat_add, UInt64.add_assoc, UInt64.add_comm]
      | false =>
          simp [Message.events, exceptional, Counters.recordAll, Counters.record,
            UInt64.ofNat_add, UInt64.add_assoc, UInt64.add_comm]

/-! ## Serving the front of a stream -/

section Serving

variable {resolver : Resolver} {stream rest : List UInt8} {plant : Plant}

theorem serve_eq (resolver : Resolver) (stream : List UInt8) (plant : Plant) :
    serve resolver stream plant =
      match cut stream with
      | .request header body rest =>
          (serve resolver rest (respond resolver header body plant).2).behind
            (respond resolver header body plant).1
      | .incomplete => ⟨[], plant, stream, true⟩
      | .malformed _ => .ended plant := by
  rw [serve]
  split
  · rename_i taken
    simp only [taken]
  · rename_i taken
    simp only [taken]
  · rename_i taken
    simp only [taken]

theorem cut_nil : cut [] = .incomplete :=
  cut_of_noMessage (.shortHeader (by decide))

theorem serve_of_incomplete (taken : cut stream = .incomplete) :
    serve resolver stream plant = ⟨[], plant, stream, true⟩ := by
  rw [serve_eq, taken]

theorem serve_of_malformed {fault : MalformedFrame} (taken : cut stream = .malformed fault) :
    serve resolver stream plant = .ended plant := by
  rw [serve_eq, taken]

/-- A request at the front is answered, and the rest is served after it. -/
theorem serve_bytes_append (request : Message) (rest : List UInt8) (plant : Plant) :
    serve resolver (request.bytes ++ rest) plant =
      (serve resolver rest (afterExchange resolver request plant)).behind
        (exchange resolver request plant.registry).1.bytes := by
  rw [serve_eq, cut_bytes_append]
  simp only [respond_eq]

/-- Nothing is served where no message stands. -/
theorem serve_of_noMessage {found : Cut} (front : NoMessage stream found) (plant : Plant) :
    (serve resolver stream plant).replies = [] ∧ (serve resolver stream plant).plant = plant := by
  have taken := cut_of_noMessage front
  cases front with
  | shortHeader | shortBody =>
      rw [serve_of_incomplete taken]
      exact ⟨rfl, rfl⟩
  | otherProtocol | badLength =>
      rw [serve_of_malformed taken]
      exact ⟨rfl, rfl⟩

/-- Every message of a stream is answered by one exchange, and what is left over is not. -/
theorem serve_of_divides {requests : List Message} (divides : Divides stream requests rest)
    (plant : Plant) :
    (serve resolver stream plant).replies =
        (sequence (exchange resolver) requests plant.registry).1.flatMap Message.bytes ∧
      (serve resolver stream plant).plant =
        ⟨(sequence (exchange resolver) requests plant.registry).2,
          plant.counters.recordAll
            ((sequence (exchange resolver) requests plant.registry).1.flatMap Message.events)⟩ := by
  obtain ⟨found, front⟩ := divides.noMessage
  rw [divides.sent]
  clear divides
  induction requests generalizing plant with
  | nil => exact serve_of_noMessage front plant
  | cons request later ih =>
      obtain ⟨replies, after⟩ := ih (afterExchange resolver request plant)
      rw [List.flatMap_cons, List.append_assoc, serve_bytes_append, sequence_cons]
      constructor
      · rw [Served.behind, replies, List.flatMap_cons]
        rfl
      · rw [Served.behind, after, List.flatMap_cons, Counters.recordAll_append]
        rfl

end Serving

/-! ## Requests at the front of a stream -/

section Front

variable {bytes : List UInt8}

theorem cut_append_of_request {header : Header} {body rest : List UInt8}
    (taken : cut bytes = .request header body rest) (more : List UInt8) :
    cut (bytes ++ more) = .request header body (rest ++ more) := by
  obtain ⟨message, rfl, rfl, rfl⟩ := cut_eq_request_iff.1 taken
  rw [List.append_assoc, cut_bytes_append]

theorem NoMessage.of_cut {found : Cut} (taken : cut bytes = found)
    (different : ∀ header body rest, found ≠ .request header body rest) :
    NoMessage bytes found := by
  rcases message_or_noMessage bytes with ⟨message, rest, rfl⟩ | ⟨other, front⟩
  · rw [cut_bytes_append] at taken
    exact absurd taken.symm (different _ _ _)
  · rw [cut_of_noMessage front] at taken
    exact taken ▸ front

theorem cut_append_of_malformed {fault : MalformedFrame} (taken : cut bytes = .malformed fault)
    (more : List UInt8) : cut (bytes ++ more) = .malformed fault := by
  apply cut_of_noMessage
  cases NoMessage.of_cut taken nofun with
  | otherProtocol other sent =>
      exact .otherProtocol other (by rw [sent, List.append_assoc])
  | badLength protocolId outside sent =>
      exact .badLength protocolId outside (by rw [sent, List.append_assoc])

/-- Requests are served one by one as they stand at the front of a stream. -/
theorem goesByFront_serve (resolver : Resolver) : GoesByFront (serve resolver) := by
  intro bytes plant
  cases taken : cut bytes with
  | incomplete => exact .waits fun later => serve_of_incomplete taken
  | malformed fault =>
      exact .ends rfl fun more => serve_of_malformed (cut_append_of_malformed taken more)
  | request header body rest =>
      have answered (more : List UInt8) : serve resolver (bytes ++ more) plant =
          (serve resolver (rest ++ more) (respond resolver header body plant).2).behind
            (respond resolver header body plant).1 := by
        rw [serve_eq, cut_append_of_request taken]
      exact .answers (length_rest_of_cut taken) answered

end Front

/-! ## Pieces at a listener -/

namespace Listener

/-- How listeners serve their connections; nothing is sent to a peer that closes. -/
def protocol : Net.Protocol Listener ListenerEvent where
  step := step
  connections := connections
  withConnections := withConnections
  received := .received
  closed := .closed
  serve listener := serve listener.resolver
  close _ := .ended
  connections_with _ _ := rfl
  serve_with _ _ := rfl
  step_received _ _ _ _ := rfl
  step_closed _ _ _ := rfl
  goesByFront listener := goesByFront_serve listener.resolver
  ended_close _ _ := rfl

variable {listener : Listener} {number : Nat}

/-- A peer that sends its requests one by one is sent one response after each of them. -/
theorem answered_one_by_one (isOpen : listener.connections.waiting? number = some [])
    (requests : List Message) (plant : Plant) :
    (sequence protocol.hear (requests.map fun request => .received number request.bytes)
          (listener, plant)).1 =
        (sequence (exchange listener.resolver) requests plant.registry).1.map
          (fun response => .served response.bytes true) ∧
      (sequence protocol.hear (requests.map fun request => .received number request.bytes)
          (listener, plant)).2.2 =
        (serve listener.resolver (requests.flatMap Message.bytes) plant).plant := by
  induction requests generalizing listener plant with
  | nil =>
      rw [List.flatMap_nil, serve_of_incomplete cut_nil]
      exact ⟨rfl, rfl⟩
  | cons request later ih =>
      have alone : serve listener.resolver request.bytes plant =
          ⟨(exchange listener.resolver request plant.registry).1.bytes,
            afterExchange listener.resolver request plant, [], true⟩ := by
        rw [← List.append_nil request.bytes, serve_bytes_append, serve_of_incomplete cut_nil,
          Served.behind, List.append_nil]
      have heard : protocol.hear (.received number request.bytes) (listener, plant) =
          (.served (exchange listener.resolver request plant.registry).1.bytes true,
            listener.withConnections (listener.connections.settle number true []),
            afterExchange listener.resolver request plant) :=
        protocol.hear_received isOpen alone
      have next : (listener.withConnections
          (listener.connections.settle number true [])).connections.waiting? number = some [] :=
        Net.Connections.waiting?_settle_self isOpen true []
      obtain ⟨outcomes, last⟩ := ih next (afterExchange listener.resolver request plant)
      rw [List.map_cons, sequence_cons, List.flatMap_cons, serve_bytes_append, heard,
        sequence_cons, List.map_cons]
      exact ⟨congrArg _ outcomes, last⟩

end Listener

/-! ## Whole connections -/

/-- What is known of the connection on which a stream of requests arrives: they are answered, up to
where the stream does not go on with a request, and leave the plant as it is at last. -/
structure Conducted (resolver : Resolver) (stream : List UInt8) (plant : Plant)
    (requests : List Message) (rest : List UInt8) (responses : List Message) (last : Plant) :
    Prop where
  divides : Divides stream requests rest
  unique : ∀ others more, Divides stream others more → others = requests ∧ more = rest
  /-- What follows the requests are too few bytes for another one, or a header that no request may
  follow. -/
  leftOver : ∃ found, NoMessage rest found
  /-- Every request is answered by the memories as the earlier ones have left them. -/
  exchanged : sequence (exchange resolver) requests plant.registry = (responses, last.registry)
  ids : responses.map (fun response => (response.transactionId, response.unitId)) =
    requests.map fun request => (request.transactionId, request.unitId)
  counters : last.counters =
    { plant.counters with
      modbusRequests := plant.counters.modbusRequests + UInt64.ofNat requests.length
      modbusExceptions := plant.counters.modbusExceptions +
        UInt64.ofNat (responses.countP fun response => isException response.body) }
  /-- In whatever pieces the stream arrives, the responses are all that is sent, and the connection
  has ended. -/
  arrived : ∀ (listener : Listener) (number : Nat) (pieces : List (List UInt8)),
    listener.resolver = resolver → listener.connections.waiting? number = some [] →
      pieces.flatten = stream →
        Listener.protocol.Ended number (responses.flatMap Message.bytes) last
          (sequence Listener.protocol.hear (Listener.protocol.arrivals number pieces)
            (listener, plant))
  /-- The same responses are sent, one after each request, and the same plant is left, if the
  requests arrive one by one. -/
  oneByOne : ∀ (listener : Listener) (number : Nat),
    listener.resolver = resolver → listener.connections.waiting? number = some [] →
      (sequence Listener.protocol.hear (requests.map fun request => .received number request.bytes)
            (listener, plant)).1 =
          responses.map (fun response => .served response.bytes true) ∧
        (sequence Listener.protocol.hear
            (requests.map fun request => .received number request.bytes)
            (listener, plant)).2.2 = last
  bounded : (Header.byteCount + 1) * requests.length ≤ stream.length

theorem ids_of_sequence (resolver : Resolver) (requests : List Message) (registry : Registry) :
    (sequence (exchange resolver) requests registry).1.map
        (fun response => (response.transactionId, response.unitId)) =
      requests.map fun request => (request.transactionId, request.unitId) := by
  induction requests generalizing registry with
  | nil => rfl
  | cons request later ih =>
      rw [sequence_cons, List.map_cons, List.map_cons, ih]
      rfl

theorem Divides.length_messages {stream rest : List UInt8} {messages : List Message}
    (divides : Divides stream messages rest) :
    (Header.byteCount + 1) * messages.length ≤ stream.length := by
  rw [divides.sent]
  clear divides
  induction messages with
  | nil => simp
  | cons message later ih =>
      have positive := message.nonempty
      rw [List.flatMap_cons, List.append_assoc, List.length_append, Message.bytes_eq,
        List.length_append, Header.length_encode, List.length_cons, Nat.mul_succ]
      omega

theorem Divides.conducted {stream rest : List UInt8} {requests : List Message}
    (divides : Divides stream requests rest) (resolver : Resolver) (plant : Plant) :
    Conducted resolver stream plant requests rest
      (sequence (exchange resolver) requests plant.registry).1
      (serve resolver stream plant).plant where
  divides := divides
  unique others more other := other.unique divides
  leftOver := divides.noMessage
  exchanged := by rw [(serve_of_divides divides plant).2]
  ids := ids_of_sequence resolver requests plant.registry
  counters := by
    rw [(serve_of_divides divides plant).2, counters_of_events, length_sequence]
  arrived listener number pieces resolves isOpen together := by
    subst resolves
    have nothing : Waits (serve listener.resolver) [] := fun later => serve_of_incomplete cut_nil
    have ended := Listener.protocol.ended_of_waiting isOpen nothing pieces plant
    obtain ⟨replies, after⟩ := Served.andThen_ended (serve listener.resolver stream plant)
    rw [List.nil_append, together] at ended
    rw [← (serve_of_divides divides plant).1, ← replies, ← after]
    exact ended
  oneByOne listener number resolves isOpen := by
    subst resolves
    obtain ⟨outcomes, last⟩ := Listener.answered_one_by_one isOpen requests plant
    refine ⟨outcomes, last.trans ?_⟩
    rw [(serve_of_divides divides plant).2, (serve_of_divides (.ofMessages requests) plant).2]
  bounded := divides.length_messages

/-- Every stream is cut into requests in exactly one way, and each of them is answered by one
response, whether the stream arrives at once, in any pieces, or request by request; what follows
the last whole request is neither answered nor carried out. -/
theorem stream_is_answered_request_by_request (resolver : Resolver) (stream : List UInt8)
    (plant : Plant) :
    ∃ requests rest responses last,
      Conducted resolver stream plant requests rest responses last := by
  obtain ⟨requests, rest, divides⟩ := Divides.total stream
  exact ⟨requests, rest, _, _, divides.conducted resolver plant⟩

/-- The registry of one memory with two holding registers. -/
def twoHoldingRegisters : Registry :=
  ⟨.ofList [("1", .ofLayout ⟨0, 0, 2, 0⟩ none)], "1"⟩

/-- A request that sets the second of two registers. -/
def wordSet : Message :=
  ⟨1, 7, [6, 0, 1, 0x12, 0x34], by decide, by decide⟩

/-- A request for so many registers from the first one on. -/
def wordsRead (transactionId : UInt16) (count : UInt8) : Message :=
  ⟨transactionId, 7, [3, 0, 0, 0, count], by simp, by simp⟩

/-- Three requests arrive together with a header of another protocol: the second one is answered
with what the first one has written, the third one asks for too much, and the header is not
answered. -/
theorem second_request_reads_first :
    ∃ responses last,
      Conducted .defaultMemory
        (wordSet.bytes ++ ((wordsRead 2 2).bytes ++ ((wordsRead 3 3).bytes ++
          [0, 4, 0, 9, 0, 6, 7])))
        ⟨twoHoldingRegisters, {}⟩ [wordSet, wordsRead 2 2, wordsRead 3 3] [0, 4, 0, 9, 0, 6, 7]
        responses last ∧
      responses.map Message.bytes =
        [[0, 1, 0, 0, 0, 6, 7, 6, 0, 1, 0x12, 0x34], [0, 2, 0, 0, 0, 7, 7, 3, 4, 0, 0, 0x12, 0x34],
          [0, 3, 0, 0, 0, 3, 7, 0x83, 2]] ∧
      last.counters.modbusRequests = 3 ∧ last.counters.modbusExceptions = 1 := by
  obtain ⟨requests, rest, responses, last, conducted⟩ := stream_is_answered_request_by_request
    .defaultMemory (wordSet.bytes ++ ((wordsRead 2 2).bytes ++ ((wordsRead 3 3).bytes ++
      [0, 4, 0, 9, 0, 6, 7]))) ⟨twoHoldingRegisters, {}⟩
  have other : NoMessage [0, 4, 0, 9, 0, 6, 7] _ :=
    .otherProtocol (show (⟨4, 9, 6, 7⟩ : Header).protocolId ≠ 0 by decide) rfl
  obtain ⟨rfl, rfl⟩ := conducted.unique [wordSet, wordsRead 2 2, wordsRead 3 3]
    [0, 4, 0, 9, 0, 6, 7] ⟨rfl, fun message more => other.ne_bytes_append⟩
  obtain ⟨rfl, -⟩ := Prod.ext_iff.1 conducted.exchanged
  exact ⟨_, last, conducted, rfl, by rw [conducted.counters]; rfl, by rw [conducted.counters]; rfl⟩

end RegisterGateway.Modbus
