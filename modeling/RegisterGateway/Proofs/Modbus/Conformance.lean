import RegisterGateway.Proofs.Modbus.Answer
import RegisterGateway.Proofs.Modbus.Grammar

/-!
# Requests are answered by their grammar

The grammar of requests knows nothing of how they are decoded and carried out. Here every decoder is
compared with it, and the main statement is that every request to every memory is answered, and
leaves the memory, as the grammar says.
-/

namespace RegisterGateway.Modbus

/-! ## Decoding -/

theorem ofCode?_eq_none_iff {code : UInt8} :
    Function.ofCode? code = none ↔ code ∉ Grammar.codes := by
  rw [Function.ofCode?, List.find?_eq_none]
  simp [Function.all, Function.code, Grammar.codes, eq_comm]

section Decoding

variable {function : Function} {data : List UInt8}

theorem ofData_of_short (short : data.length < 4) :
    Request.ofData function data = .error .illegalDataValue := by
  unfold Request.ofData
  split
  · simp only [List.length_cons] at short
    omega
  · rfl

/-- Enough data begin with two words. -/
theorem exists_words_of_length (long : 4 ≤ data.length) :
    ∃ a1 a0 q1 q0 rest, data = a1 :: a0 :: q1 :: q0 :: rest := by
  match data, long with
  | a1 :: a0 :: q1 :: q0 :: rest, _ => exact ⟨a1, a0, q1, q0, rest, rfl⟩

theorem ofData_of_reading (reads : function.code ∈ Grammar.reading) (long : 4 ≤ data.length) :
    Request.ofData function data =
      (Request.checkQuantity (Grammar.quantity data) (Grammar.most function.code)).bind fun _ =>
        .ok (.read (Grammar.area function.code) (Grammar.start data) (Grammar.quantity data)) := by
  obtain ⟨a1, a0, q1, q0, rest, rfl⟩ := exists_words_of_length long
  cases function with
  | readCoils | readDiscreteInputs | readHoldingRegisters | readInputRegisters => rfl
  | writeSingleCoil | writeSingleRegister | writeMultipleCoils | writeMultipleRegisters =>
      contradiction

theorem coilValue_eq (word : UInt16) :
    Request.coilValue word =
      if word ≠ 0xFF00 ∧ word ≠ 0x0000 then .error .illegalDataValue
      else .ok (word = 0xFF00) := by
  unfold Request.coilValue
  by_cases on : word = 0xFF00
  · simp [on]
  · by_cases off : word = 0x0000
    · simp [off]
    · simp [on, off]

theorem ofData_writeSingleCoil (long : 4 ≤ data.length) :
    Request.ofData .writeSingleCoil data =
      if Grammar.second data ≠ 0xFF00 ∧ Grammar.second data ≠ 0x0000 then .error .illegalDataValue
      else .ok (.write .coils (Grammar.start data) [Grammar.second data = 0xFF00]) := by
  obtain ⟨a1, a0, q1, q0, rest, rfl⟩ := exists_words_of_length long
  show (Request.coilValue (Grammar.second (a1 :: a0 :: q1 :: q0 :: rest))).bind _ = _
  rw [coilValue_eq]
  split <;> rfl

theorem ofData_writeSingleRegister (long : 4 ≤ data.length) :
    Request.ofData .writeSingleRegister data =
      .ok (.write .holdingRegisters (Grammar.start data) [Grammar.second data]) := by
  obtain ⟨a1, a0, q1, q0, rest, rfl⟩ := exists_words_of_length long
  rfl

/-- What a single write asks for, if its value has a meaning. -/
theorem ofData_of_single {write : AreaWrite} (long : 4 ≤ data.length)
    (asked : Grammar.write? function.code data = some write)
    (writes : function.code ∈ Grammar.single) :
    Request.ofData function data =
      if function.code = 5 ∧ Grammar.second data ≠ 0xFF00 ∧ Grammar.second data ≠ 0x0000 then
        .error .illegalDataValue
      else .ok (.write write.area write.address write.values) := by
  cases function with
  | writeSingleCoil =>
      cases asked
      simp only [ofData_writeSingleCoil long, Function.code, true_and]
  | writeSingleRegister =>
      cases asked
      exact ofData_writeSingleRegister long
  | readCoils | readDiscreteInputs | readHoldingRegisters | readInputRegisters
  | writeMultipleCoils | writeMultipleRegisters => contradiction

theorem ofData_writeMultipleCoils (long : 4 ≤ data.length) :
    Request.ofData .writeMultipleCoils data =
      (Request.checkQuantity (Grammar.quantity data)
        (Grammar.most Function.writeMultipleCoils.code)).bind fun _ =>
          (Request.payload (data.drop 4)
            (Grammar.payloadSize Function.writeMultipleCoils.code data)).bind fun bytes =>
              .ok (.write .coils (Grammar.start data)
                (Wire.unpack bytes (Grammar.quantity data))) := by
  obtain ⟨a1, a0, q1, q0, rest, rfl⟩ := exists_words_of_length long
  rfl

theorem ofData_writeMultipleRegisters (long : 4 ≤ data.length) :
    Request.ofData .writeMultipleRegisters data =
      (Request.checkQuantity (Grammar.quantity data)
        (Grammar.most Function.writeMultipleRegisters.code)).bind fun _ =>
          (Request.payload (data.drop 4)
            (Grammar.payloadSize Function.writeMultipleRegisters.code data)).bind fun bytes =>
              .ok (.write .holdingRegisters (Grammar.start data) (Wire.wordsOfBytes bytes)) := by
  obtain ⟨a1, a0, q1, q0, rest, rfl⟩ := exists_words_of_length long
  rfl

/-- The payload stands behind its length, which is the fifth byte. -/
theorem payload_drop (code : UInt8) (data : List UInt8) :
    Request.payload (data.drop 4) (Grammar.payloadSize code data) =
      if Grammar.isMisannounced code data then .error .illegalDataValue
      else .ok (Grammar.payload code data) := by
  unfold Grammar.isMisannounced Grammar.payload
  generalize Grammar.payloadSize code data = expected
  cases behind : data.drop 4 with
  | nil =>
      have missing : data[4]? = none := List.getElem?_eq_none (List.drop_eq_nil_iff.1 behind)
      simp [Request.payload, missing]
  | cons size bytes =>
      have fifth : data[4]? = some size := by
        rw [← List.head?_drop, behind, List.head?_cons]
      have later : data.drop 5 = bytes := by
        rw [← List.tail_drop, behind, List.tail_cons]
      have length : data.length = 5 + bytes.length := by
        have dropped := congrArg List.length behind
        rw [List.length_drop, List.length_cons] at dropped
        omega
      by_cases announced : size.toNat = expected
      · by_cases missing : bytes.length < expected <;>
          simp [Request.payload, fifth, later, length, announced, missing]
      · simp [Request.payload, fifth, announced]

/-- What a multiple write asks for, if its bytes are as many as they should be. -/
theorem ofData_of_multiple {write : AreaWrite} (long : 4 ≤ data.length)
    (asked : Grammar.write? function.code data = some write)
    (writes : function.code ∈ Grammar.multiple) :
    Request.ofData function data =
      (Request.checkQuantity (Grammar.quantity data) (Grammar.most function.code)).bind fun _ =>
        if Grammar.isMisannounced function.code data then .error .illegalDataValue
        else .ok (.write write.area write.address write.values) := by
  cases function with
  | writeMultipleCoils =>
      cases asked
      simp only [ofData_writeMultipleCoils long, payload_drop, Wire.unpack_eq_map_bitAt]
      congr 1
      funext _
      split <;> rfl
  | writeMultipleRegisters =>
      cases asked
      simp only [ofData_writeMultipleRegisters long, payload_drop]
      congr 1
      funext _
      split
      · rfl
      · rename_i announced
        have words :=
          Wire.wordsOfBytes_eq_map_wordAt (Grammar.length_payload (Bool.eq_false_iff.2 announced))
        simp only [Except.bind, words]
        rfl
  | readCoils | readDiscreteInputs | readHoldingRegisters | readInputRegisters
  | writeSingleCoil | writeSingleRegister => contradiction

end Decoding

/-! ## Cells -/

theorem encodeCells_eq_shown (area : Area) (cells : List area.Cell) :
    encodeCells area cells = Grammar.shown area cells := by
  cases area with
  | coils | discreteInputs =>
      simp only [encodeCells, Grammar.shown, Wire.pack_eq_bytesOfBits, Wire.length_bytesOfBits,
        Wire.packedSize]
  | holdingRegisters | inputRegisters => rfl

/-- A write of the operator changes cells and nothing else. -/
theorem after_eq_withCells {store : Store} {write : AreaWrite} (admitted : store.admits write)
    (operator : write.area.isOperator = true) :
    store.after write =
      store.withCells write.area
        (Grammar.placed (store.cells write.area) write.address.toNat write.values) := by
  rw [← Grammar.overwrite_eq_placed (Store.admits_fits admitted)]
  obtain ⟨area, address, values⟩ := write
  have closed : store.stateAfter area address values = store.state := by
    cases area with
    | coils | holdingRegisters =>
        cases gated : store.gate <;> simp [Store.stateAfter, gated, Store.opensGate]
    | discreteInputs | inputRegisters => contradiction
  simp only [Store.after, Store.put, closed]
  cases area <;> rfl

/-! ## Carrying out requests -/

section Performing

variable {function : Function} {data : List UInt8} {store : Store}

/-- The answer of a memory that runs to a function that is served. -/
theorem answerAt_of_runs (runs : store.state = .run) :
    answerAt function.code data store =
      match perform function data store with
      | .ok served => served
      | .error fault => (exceptionResponse function.code fault, store) := by
  have begun : store.isPreRun = false := Store.isPreRun_eq_false_iff.2 runs
  simp only [answerAt, begun, Function.ofCode?_code]
  rfl

theorem answerAt_of_fault (runs : store.state = .run) {fault : Fault}
    (decoded : Request.ofData function data = .error fault) :
    answerAt function.code data store = ([function.code ||| 0x80, fault.code], store) := by
  rw [answerAt_of_runs runs, perform, decoded]
  rfl

theorem answerAt_of_read (runs : store.state = .run) {area : Area} {address : UInt16}
    {count : Nat} (decoded : Request.ofData function data = .ok (.read area address count)) :
    answerAt function.code data store =
      if store.inRange area address count then
        (function.code :: Grammar.shown area (((store.cells area).drop address.toNat).take count),
          store)
      else ([function.code ||| 0x80, 2], store) := by
  rw [answerAt_of_runs runs, perform, decoded]
  simp only [bind, Except.bind, Store.readCells, ← encodeCells_eq_shown]
  by_cases inside : store.inRange area address count = true
  · simp only [if_pos inside]
    rfl
  · simp only [if_neg inside]
    rfl

theorem answerAt_of_write (runs : store.state = .run) {write : AreaWrite}
    (decoded :
      Request.ofData function data = .ok (.write write.area write.address write.values)) :
    answerAt function.code data store =
      if store.inRange write.area write.address write.values.length then
        (function.code :: data.take 4, store.after write)
      else ([function.code ||| 0x80, 2], store) := by
  rw [answerAt_of_runs runs, perform, decoded]
  simp only [bind, Except.bind, Store.writeCells_always]
  by_cases inside : store.inRange write.area write.address write.values.length = true
  · simp only [if_pos inside]
    rfl
  · simp only [if_neg inside]
    rfl

end Performing

/-! ## The answer of a memory -/

section Answers

variable {function : Function} {data : List UInt8} {store : Store}

/-- A read that is decoded depends on its range alone. -/
theorem answerAt_of_range_read (runs : store.state = .run)
    (reads : function.code ∈ Grammar.reading) (positive : 0 < Grammar.quantity data)
    (decoded : Request.ofData function data = .ok (.read (Grammar.area function.code)
      (Grammar.start data) (Grammar.quantity data))) :
    answerAt function.code data store =
      Grammar.outcome function.code data store
        (if store.size (Grammar.area function.code) <
          (Grammar.start data).toNat + Grammar.quantity data then some 2 else none) := by
  have inside := store.inRange_iff_of_count (Grammar.area function.code) (Grammar.start data)
    positive (Grammar.second data).toNat_lt
  rw [answerAt_of_read runs decoded]
  by_cases outside : store.size (Grammar.area function.code) <
      (Grammar.start data).toNat + Grammar.quantity data
  · rw [if_pos outside, if_neg fun allowed => Nat.not_le.2 outside (inside.1 allowed)]
    rfl
  · rw [if_neg outside, if_pos (inside.2 (Nat.not_lt.1 outside)), Grammar.outcome,
      Grammar.response, if_pos reads, Grammar.changed, Grammar.write?_of_reading reads]

/-- A write that is decoded depends on its range alone. -/
theorem answerAt_of_range_write (runs : store.state = .run) {write : AreaWrite}
    (asked : Grammar.write? function.code data = some write)
    (positive : 0 < Grammar.amount function.code data)
    (counted : Grammar.amount function.code data < 2 ^ 16)
    (decoded :
      Request.ofData function data = .ok (.write write.area write.address write.values)) :
    answerAt function.code data store =
      Grammar.outcome function.code data store
        (if store.size (Grammar.area function.code) <
          (Grammar.start data).toNat + Grammar.amount function.code data then some 2
        else none) := by
  obtain ⟨area, address, length, operator, writes⟩ := Grammar.matches_of_write? asked
  have inside := store.inRange_iff_of_count write.area write.address positive counted
  rw [answerAt_of_write runs decoded, ← area, ← address, length]
  by_cases outside : store.size write.area <
      write.address.toNat + Grammar.amount function.code data
  · rw [if_pos outside, if_neg fun allowed => Nat.not_le.2 outside (inside.1 allowed)]
    rfl
  · have allowed := inside.2 (Nat.not_lt.1 outside)
    have admitted : store.admits write := by
      rw [Store.admits, length]
      exact allowed
    rw [if_neg outside, if_pos allowed, after_eq_withCells admitted operator, Grammar.outcome,
      Grammar.response, if_neg writes, Grammar.changed, asked]

/-- Where the second word is a quantity it is looked at first. -/
theorem answerAt_of_quantity (runs : store.state = .run) {next : Except Fault Request}
    (decoded : Request.ofData function data =
      (Request.checkQuantity (Grammar.quantity data) (Grammar.most function.code)).bind
        fun _ => next) {others : Option UInt8}
    (goesOn : 0 < Grammar.quantity data → Request.ofData function data = next →
      answerAt function.code data store = Grammar.outcome function.code data store others) :
    answerAt function.code data store =
      Grammar.outcome function.code data store
        (if Grammar.quantity data = 0 then some 2
        else if Grammar.most function.code < Grammar.quantity data then some 3
        else others) := by
  by_cases zero : Grammar.quantity data = 0
  · rw [Request.checkQuantity, if_pos zero] at decoded
    rw [if_pos zero]
    exact answerAt_of_fault runs decoded
  · by_cases large : Grammar.most function.code < Grammar.quantity data
    · rw [Request.checkQuantity, if_neg zero, if_pos large] at decoded
      rw [if_neg zero, if_pos large]
      exact answerAt_of_fault runs decoded
    · rw [Request.checkQuantity, if_neg zero, if_neg large] at decoded
      rw [if_neg zero, if_neg large]
      exact goesOn (Nat.pos_of_ne_zero zero) decoded

theorem answerAt_of_reading (runs : store.state = .run) (long : 4 ≤ data.length)
    (reads : function.code ∈ Grammar.reading) :
    answerAt function.code data store = Grammar.answerAt function.code data store := by
  rw [Grammar.answerAt, Grammar.exception?_of_reading runs long reads]
  apply answerAt_of_quantity runs (ofData_of_reading reads long)
  intro positive decoded
  exact answerAt_of_range_read runs reads positive decoded

theorem answerAt_of_single (runs : store.state = .run) (long : 4 ≤ data.length)
    (writes : function.code ∈ Grammar.single) :
    answerAt function.code data store = Grammar.answerAt function.code data store := by
  obtain ⟨write, asked⟩ : ∃ write, Grammar.write? function.code data = some write := by
    cases function <;> first | exact ⟨_, rfl⟩ | contradiction
  have decoded := ofData_of_single long asked writes
  have one : Grammar.amount function.code data = 1 := if_pos writes
  rw [Grammar.answerAt, Grammar.exception?_of_single runs long writes]
  by_cases meaningless : function.code = 5 ∧ Grammar.second data ≠ 0xFF00 ∧
      Grammar.second data ≠ 0x0000
  · rw [if_pos meaningless] at decoded ⊢
    exact answerAt_of_fault runs decoded
  · rw [if_neg meaningless] at decoded ⊢
    rw [answerAt_of_range_write runs asked (by rw [one]; decide) (by rw [one]; decide) decoded, one]

theorem answerAt_of_multiple (runs : store.state = .run) (long : 4 ≤ data.length)
    (writes : function.code ∈ Grammar.multiple) :
    answerAt function.code data store = Grammar.answerAt function.code data store := by
  obtain ⟨write, asked⟩ : ∃ write, Grammar.write? function.code data = some write := by
    cases function <;> first | exact ⟨_, rfl⟩ | contradiction
  have several : Grammar.amount function.code data = Grammar.quantity data := by
    cases function <;> first | rfl | contradiction
  rw [Grammar.answerAt, Grammar.exception?_of_multiple runs long writes]
  apply answerAt_of_quantity runs (ofData_of_multiple long asked writes)
  intro positive decoded
  by_cases mistaken : Grammar.isMisannounced function.code data = true
  · rw [if_pos mistaken] at decoded ⊢
    exact answerAt_of_fault runs decoded
  · rw [if_neg mistaken] at decoded ⊢
    rw [answerAt_of_range_write runs asked (by rw [several]; exact positive)
      (by rw [several]; exact (Grammar.second data).toNat_lt) decoded, several]

/-- Every request is answered as the grammar says. -/
theorem answerAt_eq (code : UInt8) (data : List UInt8) (store : Store) :
    answerAt code data store = Grammar.answerAt code data store := by
  cases state : store.state with
  | preRun =>
      have waits : Grammar.exception? code data store = some 1 := if_pos state
      rw [Grammar.answerAt, waits, answerAt, if_pos (by simp [Store.isPreRun, state])]
      rfl
  | run =>
      have begun := Store.isPreRun_eq_false_iff.2 state
      cases known : Function.ofCode? code with
      | none =>
          have unknown : Grammar.exception? code data store = some 1 := by
            rw [Grammar.exception?, if_neg (by rw [state]; decide),
              if_pos (ofCode?_eq_none_iff.1 known)]
          rw [Grammar.answerAt, unknown, answerAt, begun, known]
          rfl
      | some function =>
          rw [← Function.ofCode?_eq_some_iff.1 known]
          by_cases long : 4 ≤ data.length
          · cases function with
            | readCoils | readDiscreteInputs | readHoldingRegisters | readInputRegisters =>
                exact answerAt_of_reading state long (by decide)
            | writeSingleCoil | writeSingleRegister =>
                exact answerAt_of_single state long (by decide)
            | writeMultipleCoils | writeMultipleRegisters =>
                exact answerAt_of_multiple state long (by decide)
          · have short := Nat.not_le.1 long
            have served : function.code ∈ Grammar.codes := by
              cases function <;> decide
            have unread : Grammar.exception? function.code data store = some 3 := by
              rw [Grammar.exception?, if_neg (by rw [state]; decide),
                if_neg (not_not_intro served), if_pos short]
            rw [Grammar.answerAt, unread]
            exact answerAt_of_fault state (ofData_of_short short)

end Answers

/-- Whatever memory a request reaches, and in whatever state it is: the request is answered, and
leaves the memories, as the grammar says. Bytes behind the part that its function uses are ignored,
and a read tells the number of the bytes that follow. -/
theorem requests_follow_grammar (reach : Reach) (unit code : UInt8) (data : List UInt8)
    (registry : Registry) :
    answerBy reach unit (code :: data) registry =
        Grammar.answerBy reach unit code data registry ∧
      answerBy reach unit (code :: data.take (Grammar.used code data)) registry =
        answerBy reach unit (code :: data) registry ∧
      ∀ store, Grammar.exception? code data store = none → code ∈ Grammar.reading →
        ∃ size bytes, Grammar.response code data store = code :: size :: bytes ∧
          size.toNat = bytes.length := by
  have follows (data : List UInt8) :
      answerBy reach unit (code :: data) registry =
        Grammar.answerBy reach unit code data registry := by
    unfold Grammar.answerBy
    cases found : reach.find? registry unit code with
    | none => exact answerBy_unreached found data
    | some memory =>
        obtain ⟨key, store⟩ := memory
        obtain ⟨reached, present⟩ := Reach.find?_eq_some_iff.1 found
        rw [answerBy_reached reached present, answerAt_eq]
  refine ⟨follows data, ?_, fun store fine reads => Grammar.response_counts fine reads⟩
  rw [follows, follows]
  unfold Grammar.answerBy
  simp only [Grammar.answerAt_take]

/-- The registry of one memory with ten coils. -/
def tenCoils : Registry :=
  ⟨.ofList [("1", .ofLayout ⟨10, 0, 0, 0⟩ none)], "1"⟩

/-- The last two of ten coils are written, whatever byte follows, and all of them fill two bytes. -/
theorem last_coils_written :
    answerBy (fun _ _ => some "1") 7 [15, 0, 8, 0, 2, 1, 0xFF, 0xAB] tenCoils =
        ([15, 0, 8, 0, 2], tenCoils.replace "1" { Store.ofLayout ⟨10, 0, 0, 0⟩ none with
          coils := List.replicate 8 false ++ [true, true] }) ∧
      answerBy (fun _ _ => some "1") 7 [15, 0, 8, 0, 2, 1, 0xFF] tenCoils =
        answerBy (fun _ _ => some "1") 7 [15, 0, 8, 0, 2, 1, 0xFF, 0xAB] tenCoils ∧
      ∃ size bytes,
        Grammar.response 1 [0, 0, 0, 10] (.ofLayout ⟨10, 0, 0, 0⟩ none) = 1 :: size :: bytes ∧
          size.toNat = bytes.length := by
  obtain ⟨follows, ignored, -⟩ := requests_follow_grammar (fun _ _ => some "1") 7 15
    [0, 8, 0, 2, 1, 0xFF, 0xAB] tenCoils
  obtain ⟨-, -, counts⟩ := requests_follow_grammar (fun _ _ => some "1") 7 1 [0, 0, 0, 10] tenCoils
  exact ⟨follows.trans rfl, ignored, counts _ (by decide) (by decide)⟩

end RegisterGateway.Modbus
