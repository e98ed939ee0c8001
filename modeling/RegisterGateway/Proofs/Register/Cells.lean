import Mathlib
import RegisterGateway.Register.Store

/-!
# What a write does to a store

A write that fits puts its values over one range of one area and leaves every other cell as it
was. The run state follows from the same values: the run begins when the cell of the gate is
set to true. Everything that later modules say about stores after writes goes back to
`getElem?_cells_after` and `state_after`.
-/

namespace RegisterGateway

/-! ## Overwriting a part of a list -/

section Overwrite

variable {α : Type} {cells values : List α} {start : Nat}

theorem length_overwrite (fits : start + values.length ≤ cells.length) :
    (overwrite cells start values).length = cells.length := by
  simp only [overwrite, List.length_append, List.length_take, List.length_drop]
  omega

/-- An index inside the range reads the values, every other index the cells. -/
theorem getElem?_overwrite (fits : start + values.length ≤ cells.length) (index : Nat) :
    (overwrite cells start values)[index]? =
      if start ≤ index ∧ index < start + values.length then values[index - start]?
      else cells[index]? := by
  have front : (cells.take start).length = start := by
    rw [List.length_take]
    omega
  rw [overwrite, List.append_assoc]
  by_cases before : index < start
  · rw [List.getElem?_append_left (by omega), List.getElem?_take_of_lt before,
      if_neg (fun inside => Nat.not_lt.2 inside.1 before)]
  · rw [List.getElem?_append_right (by omega), front]
    by_cases inside : index < start + values.length
    · rw [List.getElem?_append_left (by omega), if_pos ⟨Nat.not_lt.1 before, inside⟩]
    · rw [List.getElem?_append_right (by omega), List.getElem?_drop,
        if_neg (fun range => inside range.2)]
      congr 1
      omega

end Overwrite

/-! ## Writes -/

/-- Values for a range of one area. -/
structure AreaWrite where
  area : Area
  address : UInt16
  values : List area.Cell

namespace AreaWrite

/-- The value that a write puts into a cell, if it covers the cell. -/
def valueAt? (write : AreaWrite) (area : Area) (index : Nat) : Option area.Cell :=
  if same : write.area = area then
    if write.address.toNat ≤ index then (same ▸ write.values)[index - write.address.toNat]?
    else none
  else none

theorem valueAt?_self (area : Area) (address : UInt16) (values : List area.Cell) (index : Nat) :
    valueAt? ⟨area, address, values⟩ area index =
      if address.toNat ≤ index then values[index - address.toNat]? else none := by
  simp [valueAt?]

theorem valueAt?_of_ne {write : AreaWrite} {area : Area} (different : write.area ≠ area)
    (index : Nat) : write.valueAt? area index = none :=
  dif_neg different

/-- A write covers exactly the cells of its range. -/
theorem valueAt?_isSome_iff (write : AreaWrite) (index : Nat) :
    (write.valueAt? write.area index).isSome ↔
      write.address.toNat ≤ index ∧ index < write.address.toNat + write.values.length := by
  obtain ⟨area, address, values⟩ := write
  rw [valueAt?_self]
  split
  · simp
    omega
  · simp
    omega

/-- A write that covers a cell of an area goes to that area. -/
theorem area_of_valueAt? {write : AreaWrite} {area : Area} {index : Nat} {value : area.Cell}
    (covered : write.valueAt? area index = some value) : write.area = area := by
  refine Decidable.byContradiction fun different => ?_
  rw [valueAt?_of_ne different] at covered
  contradiction

/-- The gate is opened by the value true in its cell, and by nothing else. -/
theorem opensGate_iff (write : AreaWrite) (gate : UInt16) :
    Store.opensGate gate write.area write.address write.values ↔
      write.valueAt? .discreteInputs gate.toNat = some true := by
  obtain ⟨area, address, values⟩ := write
  cases area with
  | discreteInputs =>
    rw [valueAt?_self]
    by_cases reached : address.toNat ≤ gate.toNat <;> simp [Store.opensGate, reached]
  | coils => simp [Store.opensGate, valueAt?]
  | holdingRegisters => simp [Store.opensGate, valueAt?]
  | inputRegisters => simp [Store.opensGate, valueAt?]

end AreaWrite

namespace Store

/-! ## Ranges -/

/-- A range that is allowed has cells, lies inside the area, and its end is a number of 64
bits. -/
theorem inRange_iff (store : Store) (area : Area) (address : UInt16) (count : Nat) :
    store.inRange area address count ↔
      0 < count ∧ address.toNat + count ≤ store.size area ∧
        address.toNat + count < 2 ^ 64 := by
  simp only [inRange, checkedSum?]
  by_cases small : address.toNat + count < 0x10000000000000000 <;> simp [small]

/-- Where the area itself is counted by 64 bits, no sum of an allowed range is too large. -/
theorem inRange_iff_of_size {store : Store} {area : Area} (sized : store.size area < 2 ^ 64)
    (address : UInt16) (count : Nat) :
    store.inRange area address count ↔
      0 < count ∧ address.toNat + count ≤ store.size area := by
  rw [inRange_iff]
  omega

/-- Neither is it where the cells are counted by a word. -/
theorem inRange_iff_of_count (store : Store) (area : Area) (address : UInt16) {count : Nat}
    (positive : 0 < count) (counted : count < 2 ^ 16) :
    store.inRange area address count ↔ address.toNat + count ≤ store.size area := by
  have := address.toNat_lt
  rw [inRange_iff]
  omega

/-- The store after a write. -/
def after (store : Store) (write : AreaWrite) : Store :=
  store.put write.area write.address write.values

/-- Whether a write goes to one or more cells that all exist. -/
def admits (store : Store) (write : AreaWrite) : Prop :=
  store.inRange write.area write.address write.values.length

theorem admits_fits {store : Store} {write : AreaWrite} (admitted : store.admits write) :
    write.address.toNat + write.values.length ≤ (store.cells write.area).length :=
  ((inRange_iff store write.area write.address write.values.length).1 admitted).2.1

/-! ## Cells after a write -/

@[simp] theorem cells_withCells (store : Store) (area : Area) (cells : List area.Cell) :
    (store.withCells area cells).cells area = cells := by
  cases area <;> rfl

theorem cells_withCells_of_ne (store : Store) {area other : Area} (different : area ≠ other)
    (cells : List area.Cell) : (store.withCells area cells).cells other = store.cells other := by
  cases area <;> cases other <;> first | rfl | contradiction

@[simp] theorem gate_withCells (store : Store) (area : Area) (cells : List area.Cell) :
    (store.withCells area cells).gate = store.gate := by
  cases area <;> rfl

theorem cells_after_same (store : Store) (write : AreaWrite) :
    (store.after write).cells write.area =
      overwrite (store.cells write.area) write.address.toNat write.values :=
  cells_withCells store write.area _

theorem cells_after_of_ne (store : Store) (write : AreaWrite) {other : Area}
    (different : write.area ≠ other) : (store.after write).cells other = store.cells other :=
  cells_withCells_of_ne store different _

/-- A write to an area that is not the operator's leaves both areas of the operator as they were. -/
theorem operator_after {write : AreaWrite} (other : write.area.isOperator = false)
    (store : Store) :
    (store.after write).coils = store.coils ∧
      (store.after write).holdingRegisters = store.holdingRegisters := by
  obtain ⟨area, address, values⟩ := write
  cases area with
  | coils | holdingRegisters => contradiction
  | discreteInputs | inputRegisters => exact ⟨rfl, rfl⟩

@[simp] theorem gate_after (store : Store) (write : AreaWrite) :
    (store.after write).gate = store.gate :=
  gate_withCells store write.area _

/-- A write that fits puts values only into cells that exist. -/
theorem lt_size_of_valueAt? {store : Store} {write : AreaWrite} (admitted : store.admits write)
    {area : Area} {index : Nat} {value : area.Cell}
    (covered : write.valueAt? area index = some value) : index < store.size area := by
  have same := AreaWrite.area_of_valueAt? covered
  subst same
  have inside := (write.valueAt?_isSome_iff index).1 (by rw [covered]; rfl)
  exact Nat.lt_of_lt_of_le inside.2 (admits_fits admitted)

/-- No write changes the number of cells of an area. -/
theorem size_after {store : Store} {write : AreaWrite} (admitted : store.admits write)
    (area : Area) : (store.after write).size area = store.size area := by
  simp only [size]
  by_cases same : write.area = area
  · subst same
    rw [cells_after_same, length_overwrite (admits_fits admitted)]
  · rw [cells_after_of_ne store write same]

/-- A cell holds the value that a write puts there, or else what it held before. -/
theorem getElem?_cells_after {store : Store} {write : AreaWrite}
    (admitted : store.admits write) (area : Area) (index : Nat) :
    ((store.after write).cells area)[index]? =
      (write.valueAt? area index).or (store.cells area)[index]? := by
  by_cases same : write.area = area
  · subst same
    rw [cells_after_same, getElem?_overwrite (admits_fits admitted), AreaWrite.valueAt?_self]
    by_cases reached : write.address.toNat ≤ index
    · rw [if_pos reached]
      by_cases inside : index < write.address.toNat + write.values.length
      · have offset : index - write.address.toNat < write.values.length := by omega
        rw [if_pos ⟨reached, inside⟩, List.getElem?_eq_getElem offset, Option.some_or]
      · have offset : write.values.length ≤ index - write.address.toNat := by omega
        rw [if_neg (fun range => inside range.2), List.getElem?_eq_none offset, Option.none_or]
    · rw [if_neg reached, if_neg (fun range => reached range.1), Option.none_or]
  · rw [cells_after_of_ne store write same, AreaWrite.valueAt?_of_ne same, Option.none_or]

/-! ## The run state after a write -/

/-- The run begins when the cell of the gate is set to true; otherwise the state stays. -/
theorem state_after (store : Store) (write : AreaWrite) :
    (store.after write).state =
      if ∃ gate, store.gate = some gate ∧
          write.valueAt? .discreteInputs gate.toNat = some true then .run
      else store.state := by
  show store.stateAfter write.area write.address write.values = _
  cases gated : store.gate with
  | none => simp [stateAfter, gated]
  | some gate =>
    by_cases opens : write.valueAt? .discreteInputs gate.toNat = some true
    · have opened := (write.opensGate_iff gate).2 opens
      simp [stateAfter, gated, opened, opens]
    · have closed : Store.opensGate gate write.area write.address write.values = false :=
        Bool.eq_false_iff.2 fun opened => opens ((write.opensGate_iff gate).1 opened)
      simp [stateAfter, gated, closed, opens]

/-- A store that runs goes on running. -/
theorem state_after_of_run {store : Store} (runs : store.state = .run) (write : AreaWrite) :
    (store.after write).state = .run := by
  rw [state_after, runs]
  exact ite_self _

/-- A store that is not before its run is in it. -/
theorem isPreRun_eq_false_iff {store : Store} : store.isPreRun = false ↔ store.state = .run := by
  cases state : store.state <;> simp [isPreRun, state]

/-! ## Reads and writes -/

theorem writeCells_eq_ok_iff {store changed : Store} {mode : WriteMode} {area : Area}
    {address : UInt16} {values : List area.Cell} :
    store.writeCells mode area address values = .ok changed ↔
      store.refusesAsSealed mode area = false ∧ store.admits ⟨area, address, values⟩ ∧
        changed = store.after ⟨area, address, values⟩ := by
  simp only [writeCells, admits, after]
  cases refused : store.refusesAsSealed mode area with
  | true => simp
  | false =>
    by_cases inside : store.inRange area address values.length
    · simp [inside, eq_comm]
    · simp [inside]

/-- A write that does not heed the seal is refused for its range alone. -/
theorem writeCells_always (store : Store) (area : Area) (address : UInt16)
    (values : List area.Cell) :
    store.writeCells .always area address values =
      if store.inRange area address values.length then .ok (store.after ⟨area, address, values⟩)
      else .error (.outOfRange area address values.length (store.size area)) := rfl

/-- A write of values is one of cells, if their kind fits the area. -/
theorem write_eq_ok_iff {store changed : Store} {mode : WriteMode} {area : Area}
    {address : UInt16} {values : Values} :
    store.write mode area address values = .ok changed ↔
      ∃ cells, values.cellsFor? area = some cells ∧
        store.writeCells mode area address cells = .ok changed := by
  cases kind : values.cellsFor? area with
  | some cells => simp [write, kind]
  | none =>
    simp only [write, kind]
    split <;> simp

end Store

end RegisterGateway
