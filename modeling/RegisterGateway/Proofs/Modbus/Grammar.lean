import RegisterGateway.Modbus.Server
import RegisterGateway.Proofs.Register.Cells
import RegisterGateway.Proofs.Wire.Layout

/-!
# The grammar of Modbus requests

What a memory answers to a function code and data is written down once more: as a list of exceptions
of which the first that applies decides, and one answer and one effect where none does. Numbers
stand for codes, bytes and bits are read and written in their places, and a write is a change of
single cells. A request depends on the bytes alone that its function uses.
-/

namespace RegisterGateway.Modbus.Grammar

/-! ## The parts of the data -/

/-- The first word of the data. -/
def start (data : List UInt8) : UInt16 :=
  Wire.wordAt data 0

/-- The second word of the data: a quantity, or the value of a single write. -/
def second (data : List UInt8) : UInt16 :=
  Wire.wordAt data 1

def quantity (data : List UInt8) : Nat :=
  (second data).toNat

/-- The codes of the functions that are served. -/
def codes : List UInt8 :=
  [1, 2, 3, 4, 5, 6, 15, 16]

/-- The codes of the functions that read. -/
def reading : List UInt8 :=
  [1, 2, 3, 4]

/-- The codes of the functions that write one value. -/
def single : List UInt8 :=
  [5, 6]

/-- The codes of the functions that write several values. -/
def multiple : List UInt8 :=
  [15, 16]

theorem mem_reading_iff {code : UInt8} :
    code ∈ reading ↔ code = 1 ∨ code = 2 ∨ code = 3 ∨ code = 4 := by
  simp [reading]

theorem mem_single_iff {code : UInt8} : code ∈ single ↔ code = 5 ∨ code = 6 := by
  simp [single]

theorem mem_multiple_iff {code : UInt8} : code ∈ multiple ↔ code = 15 ∨ code = 16 := by
  simp [multiple]

/-- The most cells that a function reads or writes at once. -/
def most : UInt8 → Nat
  | 1 | 2 => 2000
  | 3 | 4 => 125
  | 15 => 1968
  | 16 => 123
  | _ => 1

/-- The area that a function reads or writes. -/
def area : UInt8 → Area
  | 1 | 5 | 15 => .coils
  | 2 => .discreteInputs
  | 4 => .inputRegisters
  | _ => .holdingRegisters

/-- The number of cells that a request reads or writes. -/
def amount (code : UInt8) (data : List UInt8) : Nat :=
  if code ∈ single then 1 else quantity data

/-- The number of bytes that the values of a multiple write take. -/
def payloadSize (code : UInt8) (data : List UInt8) : Nat :=
  if code = 15 then (quantity data + 7) / 8 else 2 * quantity data

/-- The values of a multiple write, which stand behind two words and one byte. -/
def payload (code : UInt8) (data : List UInt8) : List UInt8 :=
  (data.drop 5).take (payloadSize code data)

/-- Whether the values of a multiple write are not as many bytes as they should be: their number,
which stands in the fifth byte, is another one or missing, or bytes are missing. -/
def isMisannounced (code : UInt8) (data : List UInt8) : Bool :=
  data[4]?.map UInt8.toNat ≠ some (payloadSize code data) ||
    data.length < 5 + payloadSize code data

/-- The number of bytes of the data that a function uses. -/
def used (code : UInt8) (data : List UInt8) : Nat :=
  if code ∈ multiple then 5 + payloadSize code data else 4

/-! ## Exceptions, answers and effects -/

/-- The exception that a request is answered, if any; the first that applies counts. -/
def exception? (code : UInt8) (data : List UInt8) (store : Store) : Option UInt8 :=
  if store.state = .preRun then some 1
  else if code ∉ codes then some 1
  else if data.length < 4 then some 3
  else if code ∉ single ∧ quantity data = 0 then some 2
  else if code ∉ single ∧ most code < quantity data then some 3
  else if code = 5 ∧ second data ≠ 0xFF00 ∧ second data ≠ 0x0000 then some 3
  else if code ∈ multiple ∧ isMisannounced code data then some 3
  else if store.size (area code) < (start data).toNat + amount code data then some 2
  else none

/-- The bytes of cells with their number in front: bits packed, words with the more significant byte
first. -/
def shown : (area : Area) → List area.Cell → List UInt8
  | .coils, bits | .discreteInputs, bits =>
      UInt8.ofNat ((bits.length + 7) / 8) :: Wire.bytesOfBits bits
  | .holdingRegisters, words | .inputRegisters, words =>
      UInt8.ofNat (2 * words.length) :: words.flatMap fun word =>
        [UInt8.ofNat (word.toNat / 256), UInt8.ofNat (word.toNat % 256)]

/-- The answer to a request without exception. -/
def response (code : UInt8) (data : List UInt8) (store : Store) : List UInt8 :=
  if code ∈ reading then
    code :: shown (area code)
      (((store.cells (area code)).drop (start data).toNat).take (quantity data))
  else code :: data.take 4

/-- The values that a request without exception writes. -/
def write? (code : UInt8) (data : List UInt8) : Option AreaWrite :=
  match code with
  | 5 => some ⟨.coils, start data, [second data = 0xFF00]⟩
  | 6 => some ⟨.holdingRegisters, start data, [second data]⟩
  | 15 => some ⟨.coils, start data, Wire.cellsOf (payload code data) (quantity data) .coils⟩
  | 16 =>
      some ⟨.holdingRegisters, start data,
        Wire.cellsOf (payload code data) (quantity data) .holdingRegisters⟩
  | _ => none

/-- Cells of which some, from a start on, have been given values. -/
def placed {α : Type} (cells : List α) (start : Nat) (values : List α) : List α :=
  cells.mapIdx fun index cell =>
    if start ≤ index then (values[index - start]?).getD cell else cell

/-- The store after a request without exception. -/
def changed (code : UInt8) (data : List UInt8) (store : Store) : Store :=
  match write? code data with
  | none => store
  | some write =>
      store.withCells write.area
        (placed (store.cells write.area) write.address.toNat write.values)

/-- What comes of a request: an exception, which changes nothing, or its answer and its effect. -/
def outcome (code : UInt8) (data : List UInt8) (store : Store) : Option UInt8 → List UInt8 × Store
  | some number => ([code ||| 0x80, number], store)
  | none => (response code data store, changed code data store)

/-- The answer of the memory that a request reaches, and what it leaves. -/
def answerAt (code : UInt8) (data : List UInt8) (store : Store) : List UInt8 × Store :=
  outcome code data store (exception? code data store)

/-- The answer to a request, and the registry after it. -/
def answerBy (reach : Reach) (unit code : UInt8) (data : List UInt8) (registry : Registry) :
    List UInt8 × Registry :=
  match reach.find? registry unit code with
  | none => ([code ||| 0x80, 2], registry)
  | some (key, store) =>
      let (answer, after) := answerAt code data store
      (answer, registry.replace key after)

/-! ## The writes of requests -/

/-- What a write has to do with the request that asks for it. -/
structure Matches (code : UInt8) (data : List UInt8) (write : AreaWrite) : Prop where
  area : write.area = area code
  address : write.address = start data
  length : write.values.length = amount code data
  operator : write.area.isOperator = true
  writes : code ∉ reading

theorem matches_of_write? {code : UInt8} {data : List UInt8} {write : AreaWrite}
    (asked : write? code data = some write) : Matches code data write := by
  unfold write? at asked
  split at asked
  · cases asked
    exact ⟨rfl, rfl, rfl, rfl, by decide⟩
  · cases asked
    exact ⟨rfl, rfl, rfl, rfl, by decide⟩
  · cases asked
    exact ⟨rfl, rfl, Wire.length_cellsOf (payload 15 data) _ .coils, rfl, by decide⟩
  · cases asked
    exact ⟨rfl, rfl, Wire.length_cellsOf (payload 16 data) _ .holdingRegisters, rfl, by decide⟩
  · contradiction

theorem write?_of_reading {code : UInt8} (reads : code ∈ reading) (data : List UInt8) :
    write? code data = none := by
  refine Option.eq_none_iff_forall_ne_some.2 fun write asked => ?_
  exact (matches_of_write? asked).writes reads

theorem length_payload {code : UInt8} {data : List UInt8}
    (announced : isMisannounced code data = false) :
    (payload code data).length = payloadSize code data := by
  simp only [isMisannounced, Bool.or_eq_false_iff, decide_eq_false_iff_not] at announced
  rw [payload, List.length_take, List.length_drop]
  omega

/-- Values put over a range that lies inside change the cells of the range and no others. -/
theorem overwrite_eq_placed {α : Type} {cells values : List α} {start : Nat}
    (fits : start + values.length ≤ cells.length) :
    overwrite cells start values = placed cells start values := by
  apply List.ext_getElem?
  intro index
  rw [getElem?_overwrite fits, placed, List.getElem?_mapIdx]
  by_cases reached : start ≤ index
  · by_cases inside : index < start + values.length
    · have offset : index - start < values.length := by omega
      have present : index < cells.length := by omega
      simp [reached, inside, offset, present]
    · have outside : values[index - start]? = none := List.getElem?_eq_none (by omega)
      simp [reached, inside, outside]
  · simp [reached]

/-! ## The exceptions of each kind of function -/

section Exceptions

variable {code : UInt8} {data : List UInt8} {store : Store}

theorem exception?_of_reading (runs : store.state = .run) (long : 4 ≤ data.length)
    (reads : code ∈ reading) :
    exception? code data store =
      if quantity data = 0 then some 2
      else if most code < quantity data then some 3
      else if store.size (area code) < (start data).toNat + quantity data then some 2
      else none := by
  rcases mem_reading_iff.1 reads with rfl | rfl | rfl | rfl <;>
    simp [exception?, runs, Nat.not_lt.2 long, codes, single, multiple, amount]

theorem exception?_of_multiple (runs : store.state = .run) (long : 4 ≤ data.length)
    (writes : code ∈ multiple) :
    exception? code data store =
      if quantity data = 0 then some 2
      else if most code < quantity data then some 3
      else if isMisannounced code data then some 3
      else if store.size (area code) < (start data).toNat + quantity data then some 2
      else none := by
  rcases mem_multiple_iff.1 writes with rfl | rfl <;>
    simp [exception?, runs, Nat.not_lt.2 long, codes, single, multiple, amount]

theorem exception?_of_single (runs : store.state = .run) (long : 4 ≤ data.length)
    (writes : code ∈ single) :
    exception? code data store =
      if code = 5 ∧ second data ≠ 0xFF00 ∧ second data ≠ 0x0000 then some 3
      else if store.size (area code) < (start data).toNat + 1 then some 2
      else none := by
  rcases mem_single_iff.1 writes with rfl | rfl <;>
    simp [exception?, runs, Nat.not_lt.2 long, codes, single, multiple, amount]

end Exceptions

/-! ## Ignored bytes -/

section Ignoring

variable (code : UInt8) (data : List UInt8)

theorem four_le_used : 4 ≤ used code data := by
  unfold used
  split <;> omega

theorem start_take : start (data.take (used code data)) = start data :=
  Wire.wordAt_take data (Nat.le_trans (by decide) (four_le_used code data))

theorem second_take : second (data.take (used code data)) = second data :=
  Wire.wordAt_take data (four_le_used code data)

theorem payloadSize_take :
    payloadSize code (data.take (used code data)) = payloadSize code data := by
  simp only [payloadSize, quantity, second_take]

theorem payload_take {code : UInt8} (several : code ∈ multiple) :
    payload code (data.take (used code data)) = payload code data := by
  rw [payload, payloadSize_take, used, if_pos several, List.drop_take, Nat.add_sub_cancel_left,
    List.take_take, Nat.min_self, payload]

theorem isMisannounced_take {code : UInt8} (several : code ∈ multiple) :
    isMisannounced code (data.take (used code data)) = isMisannounced code data := by
  have fifth : (data.take (used code data))[4]? = data[4]? := by
    apply List.getElem?_take_of_lt
    rw [used, if_pos several]
    omega
  have missing : (data.take (used code data)).length < 5 + payloadSize code data ↔
      data.length < 5 + payloadSize code data := by
    rw [List.length_take, used, if_pos several]
    omega
  simp only [isMisannounced, payloadSize_take, fifth, missing]

theorem exception?_take (store : Store) :
    exception? code (data.take (used code data)) store = exception? code data store := by
  have four := four_le_used code data
  have short : (data.take (used code data)).length < 4 ↔ data.length < 4 := by
    rw [List.length_take]
    omega
  -- The conditions are then the same; `congr` is for the ways in which they are decided.
  by_cases several : code ∈ multiple
  · simp only [exception?, amount, quantity, start_take, second_take, short,
      isMisannounced_take data several]
    congr
  · simp only [exception?, amount, quantity, start_take, second_take, short, several, false_and]
    congr

theorem response_take (store : Store) :
    response code (data.take (used code data)) store = response code data store := by
  simp only [response, quantity, start_take, second_take, List.take_take,
    Nat.min_eq_left (four_le_used code data)]

theorem write?_take : write? code (data.take (used code data)) = write? code data := by
  unfold write?
  split
  · simp only [start_take, second_take]
  · simp only [start_take, second_take]
  · have bytes := payload_take data (show 15 ∈ multiple by decide)
    simp only [quantity, start_take, second_take, bytes]
  · have bytes := payload_take data (show 16 ∈ multiple by decide)
    simp only [quantity, start_take, second_take, bytes]
  · rfl

/-- Bytes behind the part that a function uses are ignored. -/
theorem answerAt_take (store : Store) :
    answerAt code (data.take (used code data)) store = answerAt code data store := by
  rw [answerAt, answerAt, exception?_take]
  cases exception? code data store with
  | some number => rfl
  | none => rw [outcome, outcome, response_take, changed, changed, write?_take]

end Ignoring

/-! ## Byte counts -/

/-- The number in front of the bytes of cells is that of the bytes, unless they are too many. -/
theorem shown_counts {area : Area} {cells : List area.Cell}
    (few : cells.length ≤ if area.isBit then 2000 else 125) :
    ∃ size bytes, shown area cells = size :: bytes ∧ size.toNat = bytes.length := by
  cases area with
  | coils | discreteInputs =>
      refine ⟨_, _, rfl, ?_⟩
      simp only [Area.isBit, if_true] at few
      rw [Wire.length_bytesOfBits, Wire.packedSize, UInt8.toNat_ofNat']
      omega
  | holdingRegisters | inputRegisters =>
      refine ⟨_, _, rfl, ?_⟩
      simp only [Area.isBit, Bool.false_eq_true, if_false] at few
      simp only [List.length_flatMap, List.length_cons, List.length_nil, List.map_const',
        List.sum_replicate_nat, UInt8.toNat_ofNat']
      omega

theorem quantity_le_most {code : UInt8} {data : List UInt8} {store : Store}
    (fine : exception? code data store = none) (several : code ∉ single) :
    quantity data ≤ most code := by
  refine Nat.not_lt.1 fun large => ?_
  unfold exception? at fine
  rw [if_pos (show code ∉ single ∧ most code < quantity data from ⟨several, large⟩)] at fine
  repeat' split at fine
  all_goals contradiction

/-- A read shows a limited number of cells. -/
theorem length_read_le {code : UInt8} {data : List UInt8} {store : Store}
    (fine : exception? code data store = none) (reads : code ∈ reading) :
    (((store.cells (area code)).drop (start data).toNat).take (quantity data)).length ≤
      if (area code).isBit then 2000 else 125 := by
  have small : quantity data ≤ if (area code).isBit then 2000 else 125 := by
    rcases mem_reading_iff.1 reads with rfl | rfl | rfl | rfl <;>
      exact quantity_le_most fine (by decide)
  rw [List.length_take]
  exact Nat.le_trans (Nat.min_le_left _ _) small

/-- A read is answered with the number of the bytes that follow. -/
theorem response_counts {code : UInt8} {data : List UInt8} {store : Store}
    (fine : exception? code data store = none) (reads : code ∈ reading) :
    ∃ size bytes, response code data store = code :: size :: bytes ∧
      size.toNat = bytes.length := by
  obtain ⟨size, bytes, parts, counted⟩ := shown_counts (length_read_le fine reads)
  refine ⟨size, bytes, ?_, counted⟩
  rw [response, if_pos reads, parts]

end RegisterGateway.Modbus.Grammar
