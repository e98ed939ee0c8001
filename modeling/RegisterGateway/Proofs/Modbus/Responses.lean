import RegisterGateway.Proofs.Modbus.Connection

/-!
# Responses and their frames

A response turns a request down or carries it out, and can be told apart by its first byte. The
limits on quantities keep it short enough for a frame: the number of bytes in front of what has been
read, and the length in the header, are the true ones, so that a peer gets back the response as it
was given.
-/

namespace RegisterGateway.Modbus

/-- A response that turns a request down: the code of the request with the high bit, or that bit
alone if there is no code, and the number of a fault. -/
def TurnsDown (request response : List UInt8) : Prop :=
  ∃ number ∈ [(1 : UInt8), 2, 3], response = [request.headD 0 ||| 0x80, number]

/-- A response that carries a request out: the code of the request, and behind it, if the request
reads, the number of all further bytes. -/
def CarriesOut (request response : List UInt8) : Prop :=
  ∃ code data bytes, request = code :: data ∧ response = code :: bytes ∧ code < 0x80 ∧
    (code ∈ Grammar.reading → ∃ size rest, bytes = size :: rest ∧ size.toNat = rest.length)

/-- What a peer gets back from a frame, whatever follows it: the response, the ids of the request,
and the length of the response. -/
structure Carries (frame : List UInt8) (request : Header) (response : List UInt8) : Prop where
  header : ∀ more, ∃ header, Header.read? (frame ++ more) = some (header, response ++ more) ∧
    header.transactionId = request.transactionId ∧ header.unitId = request.unitId ∧
    header.length.toNat = response.length + 1 ∧ header.bodyLength = .ok response.length ∧
    cut (frame ++ more) = .request header response more

/-! ## The parts of a response -/

namespace Grammar

variable {code number : UInt8} {data : List UInt8} {store : Store}

theorem number_of_exception (declined : exception? code data store = some number) :
    number ∈ [(1 : UInt8), 2, 3] := by
  unfold exception? at declined
  repeat' split at declined
  all_goals first
    | contradiction
    | cases declined; decide

/-- A request without exception has a code that is served, and two words of data. -/
theorem parts_of_fine (fine : exception? code data store = none) :
    code ∈ codes ∧ 4 ≤ data.length := by
  unfold exception? at fine
  repeat' split at fine
  all_goals first
    | contradiction
    | exact ⟨Decidable.not_not.1 ‹_›, Nat.not_lt.1 ‹_›⟩

theorem lt_of_mem_codes (served : code ∈ codes) : code < 0x80 := by
  simp only [codes, List.mem_cons, List.not_mem_nil, or_false] at served
  rcases served with rfl | rfl | rfl | rfl | rfl | rfl | rfl | rfl <;> decide

theorem isException_cons_of_mem_codes (served : code ∈ codes) (bytes : List UInt8) :
    isException (code :: bytes) = false := by
  simp only [codes, List.mem_cons, List.not_mem_nil, or_false] at served
  rcases served with rfl | rfl | rfl | rfl | rfl | rfl | rfl | rfl <;> rfl

theorem response_eq_cons (code : UInt8) (data : List UInt8) (store : Store) :
    ∃ bytes, response code data store = code :: bytes := by
  unfold response
  split
  · exact ⟨_, rfl⟩
  · exact ⟨_, rfl⟩

theorem two_le_length_response (fine : exception? code data store = none) :
    2 ≤ (response code data store).length := by
  by_cases reads : code ∈ reading
  · obtain ⟨size, bytes, parts, -⟩ := response_counts fine reads
    rw [parts, List.length_cons, List.length_cons]
    omega
  · have long := (parts_of_fine fine).2
    rw [response, if_neg reads, List.length_cons, List.length_take]
    omega

theorem carriesOut_response (fine : exception? code data store = none) :
    CarriesOut (code :: data) (response code data store) := by
  obtain ⟨bytes, parts⟩ := response_eq_cons code data store
  refine ⟨code, data, bytes, rfl, parts, lt_of_mem_codes (parts_of_fine fine).1, fun reads => ?_⟩
  obtain ⟨size, rest, counted, true⟩ := response_counts fine reads
  rw [parts] at counted
  exact ⟨size, rest, List.tail_eq_of_cons_eq counted, true⟩

end Grammar

/-! ## Whole responses -/

theorem turnsDown_exceptionResponse (request : List UInt8) (fault : Fault) :
    TurnsDown request (exceptionResponse (request.headD 0) fault) := by
  cases fault with
  | illegalFunction => exact ⟨1, by decide, rfl⟩
  | illegalDataAddress => exact ⟨2, by decide, rfl⟩
  | illegalDataValue => exact ⟨3, by decide, rfl⟩

theorem isException_of_turnsDown {request response : List UInt8}
    (declined : TurnsDown request response) : isException response = true := by
  obtain ⟨number, -, rfl⟩ := declined
  exact isException_exceptionResponse (request.headD 0) .illegalFunction

theorem response_cases (reach : Reach) (unit : UInt8) (request : List UInt8)
    (registry : Registry) :
    TurnsDown request (answerBy reach unit request registry).1 ∨
      ∃ code data store, request = code :: data ∧
        Grammar.exception? code data store = none ∧
        (answerBy reach unit request registry).1 = Grammar.response code data store := by
  cases request with
  | nil => exact .inl (turnsDown_exceptionResponse [] .illegalFunction)
  | cons code data =>
      cases found : reach.find? registry unit code with
      | none =>
          rw [answerBy_unreached found]
          exact .inl (turnsDown_exceptionResponse (code :: data) .illegalDataAddress)
      | some memory =>
          obtain ⟨key, store⟩ := memory
          obtain ⟨reached, present⟩ := Reach.find?_eq_some_iff.1 found
          rw [answerBy_reached reached present, answerAt_eq, Grammar.answerAt]
          cases fine : Grammar.exception? code data store with
          | none => exact .inr ⟨code, data, store, rfl, fine, rfl⟩
          | some number =>
              exact .inl ⟨number, Grammar.number_of_exception fine, rfl⟩

/-- The frame of a response that is neither empty nor too long carries it. -/
theorem carries_encodeResponse (request : Header) {response : List UInt8}
    (nonempty : 1 ≤ response.length) (short : response.length ≤ 253) :
    Carries (encodeResponse request response) request response where
  header := by
    intro more
    let message : Message := ⟨request.transactionId, request.unitId, response, nonempty, short⟩
    have frame : encodeResponse request response = message.bytes := message.bytes_eq.symm
    refine ⟨message.header, ?_, rfl, rfl, message.announces.length, ?_, ?_⟩
    · rw [frame, message.bytes_eq, List.append_assoc]
      exact Header.read?_encode_append message.header (response ++ more)
    · exact Header.bodyLength_eq_ok_iff.2 message.announces
    · rw [frame]
      exact cut_bytes_append message more

/-- Whatever is asked of whatever memory: the response fits into a frame, tells by its first byte
whether the request has been carried out, and comes out of its frame as it was given. -/
theorem response_fits_frame (reach : Reach) (unit : UInt8) (request : List UInt8)
    (registry : Registry) (header : Header) :
    let response := (answerBy reach unit request registry).1
    (2 ≤ response.length ∧ response.length ≤ 253) ∧
      (isException response = true ∧ TurnsDown request response ∨
        isException response = false ∧ CarriesOut request response) ∧
      Carries (encodeResponse header response) header response := by
  intro response
  obtain ⟨nonempty, short⟩ := length_answerBy reach unit request registry
  have carried := carries_encodeResponse header nonempty short
  rcases response_cases reach unit request registry with
    declined | ⟨code, data, store, rfl, fine, answered⟩
  · have long : 2 ≤ response.length := by
      obtain ⟨number, -, parts⟩ := declined
      exact (congrArg List.length parts).ge
    exact ⟨⟨long, short⟩, .inl ⟨isException_of_turnsDown declined, declined⟩, carried⟩
  · have given : response = Grammar.response code data store := answered
    have long : 2 ≤ response.length := by
      rw [given]
      exact Grammar.two_le_length_response fine
    have normal : isException response = false := by
      obtain ⟨bytes, parts⟩ := Grammar.response_eq_cons code data store
      rw [given, parts]
      exact Grammar.isException_cons_of_mem_codes (Grammar.parts_of_fine fine).1 bytes
    have carriesOut : CarriesOut (code :: data) response := by
      rw [given]
      exact Grammar.carriesOut_response fine
    exact ⟨⟨long, short⟩, .inr ⟨normal, carriesOut⟩, carried⟩

/-- A request without a code is turned down by the high bit alone. -/
example (reach : Reach) (unit : UInt8) (registry : Registry) :
    (answerBy reach unit [] registry).1 = [0x80, 1] := rfl

end RegisterGateway.Modbus
