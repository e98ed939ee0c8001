import RegisterGateway.Proofs.Modbus.Conformance
import RegisterGateway.Proofs.Wire.Carrying

/-!
# Requests as they are sent

The grammar takes the data of a request apart. Here the data are put together from an address and
from values, and the answers of the grammar are told in the same terms: a write that is sent puts
its values into the memory that it reaches, and a read is answered with bytes that carry the cells.
-/

namespace RegisterGateway.Modbus

/-- The data of a request: two words, and what follows them. -/
def dataOf (address second : UInt16) (rest : List UInt8) : List UInt8 :=
  Wire.wordBytes address ++ (Wire.wordBytes second ++ rest)

/-- The word that stands for the value of a single write: two words have a meaning for a bit. -/
def singleWord : (area : Area) → area.Cell → UInt16
  | .coils, bit | .discreteInputs, bit => if bit then 0xFF00 else 0x0000
  | .holdingRegisters, word | .inputRegisters, word => word

/-! ## The parts of the data -/

section Data

variable (address second : UInt16) (rest : List UInt8)

@[simp] theorem start_dataOf : Grammar.start (dataOf address second rest) = address :=
  Wire.wordOfBytes_wordBytes address

@[simp] theorem second_dataOf : Grammar.second (dataOf address second rest) = second :=
  Wire.wordOfBytes_wordBytes second

theorem quantity_dataOf {count : Nat} (small : count < 2 ^ 16) :
    Grammar.quantity (dataOf address (UInt16.ofNat count) rest) = count := by
  rw [Grammar.quantity, second_dataOf, UInt16.toNat_ofNat']
  exact Nat.mod_eq_of_lt small

theorem length_dataOf : (dataOf address second rest).length = 4 + rest.length := by
  rw [dataOf, List.length_append, List.length_append, ← Nat.add_assoc]
  rfl

theorem four_le_length_dataOf : 4 ≤ (dataOf address second rest).length := by
  rw [length_dataOf]
  exact Nat.le_add_right 4 rest.length

end Data

theorem Grammar.write?_of_multiple {code : UInt8} (multiple : code ∈ Grammar.multiple)
    (data : List UInt8) :
    Grammar.write? code data = some ⟨Grammar.area code, Grammar.start data,
      Wire.cellsOf (Grammar.payload code data) (Grammar.quantity data) (Grammar.area code)⟩ := by
  rcases Grammar.mem_multiple_iff.1 multiple with rfl | rfl <;> rfl

/-- The word that is sent for a value is read as that value. -/
theorem Grammar.write?_of_single {code : UInt8} (single : code ∈ Grammar.single)
    {data : List UInt8} {value : (Grammar.area code).Cell}
    (sent : Grammar.second data = singleWord (Grammar.area code) value) :
    Grammar.write? code data = some ⟨Grammar.area code, Grammar.start data, [value]⟩ := by
  rcases Grammar.mem_single_iff.1 single with rfl | rfl
  · show some (AreaWrite.mk .coils _ [decide (Grammar.second data = 0xFF00)]) = _
    rw [sent]
    cases value <;> rfl
  · show some (AreaWrite.mk .holdingRegisters _ [Grammar.second data]) = _
    rw [sent]
    rfl

theorem most_lt (code : UInt8) : Grammar.most code < 2 ^ 16 := by
  unfold Grammar.most
  split <;> decide

/-- The data of a multiple write: behind the two words a byte for the number of bytes, and these. -/
def multipleData (address : UInt16) (count : Nat) (bytes behind : List UInt8) : List UInt8 :=
  dataOf address (UInt16.ofNat count) (UInt8.ofNat bytes.length :: (bytes ++ behind))

section MultipleData

variable {code : UInt8} {address : UInt16} {count : Nat} {bytes behind : List UInt8}

theorem start_multipleData : Grammar.start (multipleData address count bytes behind) = address :=
  start_dataOf address _ _

theorem quantity_multipleData (few : count ≤ Grammar.most code) :
    Grammar.quantity (multipleData address count bytes behind) = count :=
  quantity_dataOf address _ (Nat.lt_of_le_of_lt few (most_lt code))

theorem payloadSize_multipleData (multiple : code ∈ Grammar.multiple)
    (few : count ≤ Grammar.most code) :
    Grammar.payloadSize code (multipleData address count bytes behind) =
      RawIngest.payloadSize (Grammar.area code) count := by
  rw [Grammar.payloadSize, quantity_multipleData few]
  rcases Grammar.mem_multiple_iff.1 multiple with rfl | rfl <;> rfl

/-- The bytes of a multiple write are found again. -/
theorem payload_multipleData (multiple : code ∈ Grammar.multiple) (few : count ≤ Grammar.most code)
    (size : bytes.length = RawIngest.payloadSize (Grammar.area code) count) :
    Grammar.payload code (multipleData address count bytes behind) = bytes := by
  rw [Grammar.payload, payloadSize_multipleData multiple few, ← size]
  exact List.take_left

/-- They are as many as it says. -/
theorem isMisannounced_multipleData (multiple : code ∈ Grammar.multiple)
    (few : count ≤ Grammar.most code)
    (size : bytes.length = RawIngest.payloadSize (Grammar.area code) count) :
    Grammar.isMisannounced code (multipleData address count bytes behind) = false := by
  have small : bytes.length < 256 := by
    rw [size]
    rcases Grammar.mem_multiple_iff.1 multiple with rfl | rfl
    · have : count ≤ 1968 := few
      show (count + 7) / 8 < 256
      omega
    · have : count ≤ 123 := few
      show 2 * count < 256
      omega
  have fifth : (multipleData address count bytes behind)[4]? =
      some (UInt8.ofNat bytes.length) := rfl
  have length : (multipleData address count bytes behind).length =
      5 + bytes.length + behind.length := by
    rw [multipleData, length_dataOf, List.length_cons, List.length_append]
    omega
  rw [Grammar.isMisannounced, payloadSize_multipleData multiple few, ← size, fifth, length]
  simp [Nat.mod_eq_of_lt small]

end MultipleData

/-! ## Answers -/

section Answers

variable {reach : Reach} {unit code : UInt8} {registry : Registry} {key : String} {store : Store}

/-- A write without exception is answered with its two words. -/
theorem answerBy_of_write? (reached : reach unit code = some key)
    (present : registry.find? key = some store) {data : List UInt8} {write : AreaWrite}
    (asked : Grammar.write? code data = some write)
    (fine : Grammar.exception? code data store = none) (admitted : store.admits write) :
    answerBy reach unit (code :: data) registry =
      (code :: data.take 4, registry.replace key (store.after write)) := by
  obtain ⟨-, -, -, operator, writes⟩ := Grammar.matches_of_write? asked
  rw [answerBy_reached reached present, answerAt_eq, Grammar.answerAt, fine, Grammar.outcome,
    Grammar.response, if_neg writes, Grammar.changed, asked, after_eq_withCells admitted operator]

/-- Several values that are sent are written. -/
theorem answerBy_of_multiple (reached : reach unit code = some key)
    (present : registry.find? key = some store) (runs : store.state = .run)
    (multiple : code ∈ Grammar.multiple) {address : UInt16}
    {values : List (Grammar.area code).Cell} (few : values.length ≤ Grammar.most code)
    (admitted : store.admits ⟨Grammar.area code, address, values⟩) {bytes : List UInt8}
    {padding : List Bool} (carried : Wire.Carries (Grammar.area code) bytes values padding)
    (behind : List UInt8) :
    answerBy reach unit (code :: multipleData address values.length bytes behind) registry =
      (code :: dataOf address (UInt16.ofNat values.length) [],
        registry.replace key (store.after ⟨Grammar.area code, address, values⟩)) := by
  obtain ⟨size, placed⟩ := Wire.carries_iff.1 ⟨padding, carried⟩
  obtain ⟨positive, inside, -⟩ := (store.inRange_iff _ _ _).1 admitted
  have asked : Grammar.write? code (multipleData address values.length bytes behind) =
      some ⟨Grammar.area code, address, values⟩ := by
    rw [Grammar.write?_of_multiple multiple, start_multipleData, quantity_multipleData few,
      payload_multipleData multiple few size, placed]
  have fine :
      Grammar.exception? code (multipleData address values.length bytes behind) store = none := by
    have long : 4 ≤ (multipleData address values.length bytes behind).length :=
      four_le_length_dataOf _ _ _
    rw [Grammar.exception?_of_multiple runs long multiple, quantity_multipleData few,
      if_neg (Nat.ne_of_gt positive), if_neg (Nat.not_lt.2 few),
      isMisannounced_multipleData multiple few size, if_neg Bool.false_ne_true,
      start_multipleData, if_neg (Nat.not_lt.2 inside)]
  exact answerBy_of_write? reached present asked fine admitted

/-- A single value that is sent is written. -/
theorem answerBy_of_single (reached : reach unit code = some key)
    (present : registry.find? key = some store) (runs : store.state = .run)
    (single : code ∈ Grammar.single) {address : UInt16} {value : (Grammar.area code).Cell}
    (admitted : store.admits ⟨Grammar.area code, address, [value]⟩) (behind : List UInt8) :
    answerBy reach unit (code :: dataOf address (singleWord (Grammar.area code) value) behind)
        registry =
      (code :: dataOf address (singleWord (Grammar.area code) value) [],
        registry.replace key (store.after ⟨Grammar.area code, address, [value]⟩)) := by
  obtain ⟨-, inside, -⟩ := (store.inRange_iff _ _ _).1 admitted
  have asked := Grammar.write?_of_single single
    (second_dataOf address (singleWord (Grammar.area code) value) behind)
  rw [start_dataOf] at asked
  have fine : Grammar.exception? code
      (dataOf address (singleWord (Grammar.area code) value) behind) store = none := by
    have meaningful : ¬ (code = 5 ∧ singleWord (Grammar.area code) value ≠ 0xFF00 ∧
        singleWord (Grammar.area code) value ≠ 0x0000) := by
      rintro ⟨rfl, off, on⟩
      cases value <;> contradiction
    rw [Grammar.exception?_of_single runs (four_le_length_dataOf _ _ _) single, second_dataOf,
      if_neg meaningful, start_dataOf]
    exact if_neg (Nat.not_lt.2 inside)
  exact answerBy_of_write? reached present asked fine admitted

/-- The bytes with which cells are answered carry these cells, and false behind them. -/
theorem exists_carries_encodeCells {area : Area} {cells : List area.Cell}
    (few : cells.length ≤ if area.isBit then 2000 else 125) :
    ∃ size bytes zeros, encodeCells area cells = size :: bytes ∧ size.toNat = bytes.length ∧
      Wire.Carries area bytes cells (List.replicate zeros false) := by
  obtain ⟨size, bytes, parts, counted⟩ := Grammar.shown_counts few
  rw [← encodeCells_eq_shown] at parts
  cases area with
  | coils | discreteInputs =>
      obtain ⟨-, rfl⟩ := List.cons.inj parts
      have packed := Wire.flatMap_bitsOfByte_pack cells
      refine ⟨size, _, _, parts, counted, packed, ?_⟩
      rw [List.length_replicate, Wire.packedSize]
      omega
  | holdingRegisters | inputRegisters =>
      obtain ⟨-, rfl⟩ := List.cons.inj parts
      exact ⟨size, _, 0, parts, counted, rfl, rfl⟩

/-- A range that is asked for is answered with bytes that carry its cells. -/
theorem answerBy_of_read (reached : reach unit code = some key)
    (present : registry.find? key = some store) (runs : store.state = .run)
    (reads : code ∈ Grammar.reading) {address : UInt16} {count : Nat} (positive : 0 < count)
    (few : count ≤ Grammar.most code)
    (inside : address.toNat + count ≤ store.size (Grammar.area code)) (behind : List UInt8) :
    ∃ size bytes zeros,
      answerBy reach unit (code :: dataOf address (UInt16.ofNat count) behind) registry =
        (code :: size :: bytes, registry) ∧ size.toNat = bytes.length ∧
      Wire.Carries (Grammar.area code) bytes
        (((store.cells (Grammar.area code)).drop address.toNat).take count)
        (List.replicate zeros false) := by
  have quantity := quantity_dataOf address behind (Nat.lt_of_le_of_lt few (most_lt code))
  have fine :
      Grammar.exception? code (dataOf address (UInt16.ofNat count) behind) store = none := by
    rw [Grammar.exception?_of_reading runs (four_le_length_dataOf _ _ _) reads, quantity,
      if_neg (Nat.ne_of_gt positive), if_neg (Nat.not_lt.2 few), start_dataOf,
      if_neg (Nat.not_lt.2 inside)]
  have shown := Grammar.length_read_le fine reads
  rw [start_dataOf, quantity] at shown
  obtain ⟨size, bytes, zeros, parts, counted, carried⟩ := exists_carries_encodeCells shown
  refine ⟨size, bytes, zeros, ?_, counted, carried⟩
  rw [answerBy_reached reached present, answerAt_eq, Grammar.answerAt, fine, Grammar.outcome,
    Grammar.response, if_pos reads, start_dataOf, quantity, ← encodeCells_eq_shown, parts,
    Grammar.changed, Grammar.write?_of_reading reads, Registry.replace_of_find? present]

end Answers

end RegisterGateway.Modbus
