import RegisterGateway.Proofs.Register.Cells
import RegisterGateway.Proofs.Sequence

/-!
# Stores as memories of the last write

A ledger keeps no cells: it knows the sizes of the areas, the gate and the successful writes in
their order. A cell holds what the last write that covers it put there, or zero; the gate is
open once a write has set its cell to true; ranges are compared in unbounded numbers. The main
statement, `answers_eq_ledger`, is that a store answers every sequence of calls as the ledger
does.
-/

namespace RegisterGateway

/-! ## Calls of a store -/

/-- What a store can be asked to do. The kind of the values of a `writeCells` fits its area by
type; such a write does not heed the seal. -/
inductive StoreCall where
  | read (area : Area) (address : UInt16) (count : Nat)
  | write (mode : WriteMode) (area : Area) (address : UInt16) (values : Values)
  | writeCells (area : Area) (address : UInt16) (values : List area.Cell)
  | snapshot

/-- What a store answers. -/
inductive StoreAnswer where
  | values (result : Except StoreError Values)
  | written (result : Except StoreError Unit)
  | snapshot (content : Snapshot)

/-- The answer to a write and the state after it; a refused write leaves the state as it was. -/
def StoreAnswer.ofWrite {σ : Type} (result : Except StoreError σ) (before : σ) :
    StoreAnswer × σ :=
  match result with
  | .ok after => (.written (.ok ()), after)
  | .error error => (.written (.error error), before)

/-- Carries out a call on a store. -/
def Store.perform (call : StoreCall) (store : Store) : StoreAnswer × Store :=
  match call with
  | .read area address count => (.values (store.read area address count), store)
  | .write mode area address values =>
      StoreAnswer.ofWrite (store.write mode area address values) store
  | .writeCells area address values =>
      StoreAnswer.ofWrite (store.writeCells .always area address values) store
  | .snapshot => (.snapshot store.snapshot, store)

/-- The content of one area in a snapshot. -/
def Snapshot.values (content : Snapshot) : Area → Values
  | .coils => .bits content.coils
  | .discreteInputs => .bits content.discreteInputs
  | .holdingRegisters => .registers content.holdingRegisters
  | .inputRegisters => .registers content.inputRegisters

/-! ## Ledgers -/

/-- The value that the last of some writes to a cell put there. -/
def lastWritten? (writes : List AreaWrite) (area : Area) (index : Nat) : Option area.Cell :=
  writes.reverse.findSome? fun write => write.valueAt? area index

@[simp] theorem lastWritten?_nil (area : Area) (index : Nat) :
    lastWritten? [] area index = none := rfl

/-- A later write decides the cells that it covers. -/
theorem lastWritten?_append (writes : List AreaWrite) (write : AreaWrite) (area : Area)
    (index : Nat) :
    lastWritten? (writes ++ [write]) area index =
      (write.valueAt? area index).or (lastWritten? writes area index) := by
  rw [lastWritten?, List.reverse_append, List.reverse_singleton, List.singleton_append,
    List.findSome?_cons]
  cases write.valueAt? area index <;> rfl

/-- What was last written to a cell was written by some write. -/
theorem exists_of_lastWritten? {writes : List AreaWrite} {area : Area} {index : Nat}
    {value : area.Cell} (last : lastWritten? writes area index = some value) :
    ∃ write ∈ writes, write.valueAt? area index = some value := by
  obtain ⟨write, member, covered⟩ := List.exists_of_findSome?_eq_some last
  exact ⟨write, List.mem_reverse.1 member, covered⟩

/-- The sizes and the gate of a store, and the successful writes to it. -/
structure Ledger where
  layout : Layout
  gate : Option UInt16
  writes : List AreaWrite := []

namespace Ledger

/-- The value of a cell: what was written there last, or zero. -/
def cell (ledger : Ledger) (area : Area) (index : Nat) : area.Cell :=
  (lastWritten? ledger.writes area index).getD area.zero

/-- The values of consecutive cells. -/
def cellsFrom (ledger : Ledger) (area : Area) (start count : Nat) : List area.Cell :=
  (List.range count).map fun offset => ledger.cell area (start + offset)

/-- A ledger without gate runs; one with a gate runs once some write has set the cell of the
gate to true. -/
def state (ledger : Ledger) : RunState :=
  match ledger.gate with
  | none => .run
  | some gate =>
      if ∃ write ∈ ledger.writes, write.valueAt? .discreteInputs gate.toNat = some true then .run
      else .preRun

/-- The values of a range. -/
def read (ledger : Ledger) (area : Area) (address : UInt16) (count : Nat) :
    Except StoreError Values :=
  if 0 < count ∧ address.toNat + count ≤ ledger.layout.size area then
    .ok (.ofCells area (ledger.cellsFrom area address.toNat count))
  else .error (.outOfRange area address count (ledger.layout.size area))

/-- Adds a write. It is refused as sealed if it heeds the seal, goes to the coils or the holding
registers, and the ledger has a gate and runs; this comes before the kind of the values, and
that before the range. -/
def write (ledger : Ledger) (mode : WriteMode) (area : Area) (address : UInt16)
    (values : Values) : Except StoreError Ledger :=
  if mode = .unlessSealed ∧ (area = .coils ∨ area = .holdingRegisters) ∧
      ledger.gate ≠ none ∧ ledger.state = .run then .error (.isSealed area)
  else match values.cellsFor? area with
    | none => .error (.kindMismatch area)
    | some cells =>
      if 0 < cells.length ∧ address.toNat + cells.length ≤ ledger.layout.size area then
        .ok { ledger with writes := ledger.writes ++ [⟨area, address, cells⟩] }
      else .error (.outOfRange area address cells.length (ledger.layout.size area))

/-- All cells of the areas, and the state. -/
def snapshot (ledger : Ledger) : Snapshot where
  coils := ledger.cellsFrom .coils 0 ledger.layout.coils
  discreteInputs := ledger.cellsFrom .discreteInputs 0 ledger.layout.discreteInputs
  holdingRegisters := ledger.cellsFrom .holdingRegisters 0 ledger.layout.holdingRegisters
  inputRegisters := ledger.cellsFrom .inputRegisters 0 ledger.layout.inputRegisters
  state := ledger.state

/-- Carries out a call on a ledger. -/
def perform (call : StoreCall) (ledger : Ledger) : StoreAnswer × Ledger :=
  match call with
  | .read area address count => (.values (ledger.read area address count), ledger)
  | .write mode area address values =>
      StoreAnswer.ofWrite (ledger.write mode area address values) ledger
  | .writeCells area address values =>
      StoreAnswer.ofWrite (ledger.write .always area address (.ofCells area values)) ledger
  | .snapshot => (.snapshot ledger.snapshot, ledger)

/-- The ledger with one more write. -/
def add (ledger : Ledger) (write : AreaWrite) : Ledger :=
  { ledger with writes := ledger.writes ++ [write] }

theorem cell_add (ledger : Ledger) (write : AreaWrite) (area : Area) (index : Nat) :
    (ledger.add write).cell area index =
      (write.valueAt? area index).getD (ledger.cell area index) := by
  simp only [cell, add, lastWritten?_append]
  cases write.valueAt? area index <;> rfl

theorem state_add (ledger : Ledger) (write : AreaWrite) :
    (ledger.add write).state =
      if ∃ gate, ledger.gate = some gate ∧
          write.valueAt? .discreteInputs gate.toNat = some true then .run
      else ledger.state := by
  cases gated : ledger.gate with
  | none => simp [state, add, gated]
  | some gate =>
    by_cases opens : write.valueAt? .discreteInputs gate.toNat = some true
    · simp [state, add, gated, opens]
    · simp [state, add, gated, opens]

end Ledger

/-! ## What a ledger says of a store -/

/-- A store with the sizes, the gate, the state and the cells of a ledger. -/
structure Ledger.Describes (ledger : Ledger) (store : Store) : Prop where
  gate : store.gate = ledger.gate
  state : store.state = ledger.state
  size : ∀ area, store.size area = ledger.layout.size area
  cell : ∀ area index, index < ledger.layout.size area →
    (store.cells area)[index]? = some (ledger.cell area index)

namespace Ledger.Describes

/-- Before the first write every cell is zero, and a store with a gate has yet to run. -/
theorem initial (layout : Layout) (gate : Option UInt16) :
    Ledger.Describes ⟨layout, gate, []⟩ (Store.ofLayout layout gate) where
  gate := rfl
  state := by cases gate <;> rfl
  size area := by cases area <;> simp [Store.size, Store.cells, Store.ofLayout, Layout.size]
  cell area index inside := by
    cases area <;>
      simp_all [Store.cells, Store.ofLayout, Layout.size, Ledger.cell, Area.zero]

variable {ledger : Ledger} {store : Store}

/-- A range of cells reads as the ledger says. -/
theorem slice (describes : ledger.Describes store) {area : Area} {start count : Nat}
    (fits : start + count ≤ ledger.layout.size area) :
    ((store.cells area).drop start).take count = ledger.cellsFrom area start count := by
  apply List.ext_getElem?
  intro offset
  by_cases inside : offset < count
  · rw [List.getElem?_take_of_lt inside, List.getElem?_drop,
      describes.cell area (start + offset) (by omega)]
    simp [Ledger.cellsFrom, inside]
  · rw [List.getElem?_eq_none (by rw [List.length_take]; omega),
      List.getElem?_eq_none (by rw [Ledger.cellsFrom, List.length_map, List.length_range]; omega)]

/-- A whole area reads as the ledger says. -/
theorem cells_eq (describes : ledger.Describes store) (area : Area) :
    store.cells area = ledger.cellsFrom area 0 (ledger.layout.size area) := by
  have whole := describes.slice (Nat.le_of_eq (Nat.zero_add (ledger.layout.size area)))
  have size : (store.cells area).length = ledger.layout.size area := describes.size area
  rw [← whole, List.drop_zero, ← size, List.take_length]

/-- A write that fits goes into the ledger. -/
theorem add (describes : ledger.Describes store) {write : AreaWrite}
    (admitted : store.admits write) : (ledger.add write).Describes (store.after write) where
  gate := (Store.gate_after store write).trans describes.gate
  state := by rw [Store.state_after, Ledger.state_add, describes.gate, describes.state]
  size area := (Store.size_after admitted area).trans (describes.size area)
  cell area index inside := by
    rw [Store.getElem?_cells_after admitted, describes.cell area index inside, Ledger.cell_add]
    cases write.valueAt? area index <;> rfl

variable (sized : ∀ area, ledger.layout.size area < 2 ^ 64)

include sized in
theorem inRange_iff (describes : ledger.Describes store) (area : Area) (address : UInt16)
    (count : Nat) :
    store.inRange area address count ↔
      0 < count ∧ address.toNat + count ≤ ledger.layout.size area := by
  have fits : store.size area < 2 ^ 64 := by
    rw [describes.size]
    exact sized area
  rw [Store.inRange_iff_of_size fits, describes.size]

include sized in
theorem read_eq (describes : ledger.Describes store) (area : Area) (address : UInt16)
    (count : Nat) : store.read area address count = ledger.read area address count := by
  simp only [Store.read, Store.readCells, Ledger.read]
  by_cases covered : 0 < count ∧ address.toNat + count ≤ ledger.layout.size area
  · rw [if_pos ((describes.inRange_iff sized area address count).2 covered), if_pos covered,
      describes.slice covered.2]
    rfl
  · rw [if_neg (mt (describes.inRange_iff sized area address count).1 covered), if_neg covered,
      describes.size]
    rfl

/-- The seal of a store is closed if the ledger has a gate and runs. -/
theorem refusesAsSealed_iff (describes : ledger.Describes store) (mode : WriteMode)
    (area : Area) :
    store.refusesAsSealed mode area ↔
      mode = .unlessSealed ∧ (area = .coils ∨ area = .holdingRegisters) ∧
        ledger.gate ≠ none ∧ ledger.state = .run := by
  rw [← describes.gate, ← describes.state]
  cases area <;>
    simp [Store.refusesAsSealed, Store.isSealed, Area.isOperator, Option.isSome_iff_ne_none]

/-- A write is answered as the ledger says, and the ledger describes what it leaves. -/
theorem write (sized : ∀ area, ledger.layout.size area < 2 ^ 64)
    (describes : ledger.Describes store) (mode : WriteMode) (area : Area) (address : UInt16)
    (values : Values) :
    (StoreAnswer.ofWrite (store.write mode area address values) store).1 =
        (StoreAnswer.ofWrite (ledger.write mode area address values) ledger).1 ∧
      (StoreAnswer.ofWrite (ledger.write mode area address values) ledger).2.Describes
        (StoreAnswer.ofWrite (store.write mode area address values) store).2 := by
  by_cases closed : mode = .unlessSealed ∧ (area = .coils ∨ area = .holdingRegisters) ∧
      ledger.gate ≠ none ∧ ledger.state = .run
  · have refused := (describes.refusesAsSealed_iff mode area).2 closed
    have stored : store.write mode area address values = .error (.isSealed area) := by
      cases kind : values.cellsFor? area <;> simp [Store.write, Store.writeCells, kind, refused]
    have entered : ledger.write mode area address values = .error (.isSealed area) :=
      if_pos closed
    rw [stored, entered]
    exact ⟨rfl, describes⟩
  · have passed : store.refusesAsSealed mode area = false :=
      Bool.eq_false_iff.2 (mt (describes.refusesAsSealed_iff mode area).1 closed)
    simp only [Store.write, Ledger.write, if_neg closed]
    cases kind : values.cellsFor? area with
    | none =>
      simp only [passed]
      exact ⟨rfl, describes⟩
    | some cells =>
      by_cases covered : 0 < cells.length ∧
          address.toNat + cells.length ≤ ledger.layout.size area
      · have admitted : store.admits ⟨area, address, cells⟩ :=
          (describes.inRange_iff sized area address cells.length).2 covered
        have stored := Store.writeCells_eq_ok_iff.2 ⟨passed, admitted, rfl⟩
        simp only [stored, if_pos covered]
        exact ⟨rfl, describes.add admitted⟩
      · have outside := mt (describes.inRange_iff sized area address cells.length).1 covered
        simp only [Store.writeCells, passed, outside, if_neg covered, describes.size]
        exact ⟨rfl, describes⟩

/-- A snapshot shows the cells and the state of the ledger. -/
theorem snapshot_eq (describes : ledger.Describes store) : store.snapshot = ledger.snapshot := by
  have coils := describes.cells_eq .coils
  have discreteInputs := describes.cells_eq .discreteInputs
  have holdingRegisters := describes.cells_eq .holdingRegisters
  have inputRegisters := describes.cells_eq .inputRegisters
  rw [Store.snapshot, Ledger.snapshot, Snapshot.mk.injEq]
  exact ⟨coils, discreteInputs, holdingRegisters, inputRegisters, describes.state⟩

/-- Every call is answered as the ledger says, and the ledger describes what it leaves. -/
theorem perform (sized : ∀ area, ledger.layout.size area < 2 ^ 64)
    (describes : ledger.Describes store) (call : StoreCall) :
    (store.perform call).1 = (ledger.perform call).1 ∧
      (ledger.perform call).2.Describes (store.perform call).2 := by
  cases call with
  | read area address count =>
      simp only [Store.perform, Ledger.perform]
      exact ⟨by rw [describes.read_eq sized], describes⟩
  | write mode area address values => exact describes.write sized mode area address values
  | writeCells area address values =>
      have typed : store.writeCells .always area address values =
          store.write .always area address (.ofCells area values) := by
        rw [Store.write, Values.cellsFor?_ofCells]
      simp only [Store.perform, Ledger.perform, typed]
      exact describes.write sized .always area address (.ofCells area values)
  | snapshot =>
      simp only [Store.perform, Ledger.perform]
      exact ⟨by rw [describes.snapshot_eq], describes⟩

end Ledger.Describes

/-- No call changes the sizes that a ledger knows. -/
theorem Ledger.layout_perform (call : StoreCall) (ledger : Ledger) :
    (ledger.perform call).2.layout = ledger.layout := by
  have written (mode : WriteMode) (area : Area) (address : UInt16) (values : Values) :
      (StoreAnswer.ofWrite (ledger.write mode area address values) ledger).2.layout =
        ledger.layout := by
    simp only [Ledger.write]
    split
    · rfl
    · split
      · rfl
      · split <;> rfl
  cases call with
  | read | snapshot => rfl
  | write mode area address values => exact written mode area address values
  | writeCells area address values => exact written .always area address (.ofCells area values)

/-- A snapshot shows of every area what a read of the whole area gives. -/
theorem Store.read_whole {store : Store} {area : Area} (sized : store.size area < 2 ^ 64)
    (present : 0 < store.size area) :
    store.read area 0 (store.size area) = .ok (store.snapshot.values area) := by
  have whole : store.inRange area 0 (store.size area) :=
    (inRange_iff_of_size sized 0 (store.size area)).2 ⟨present, by simp⟩
  have all : ((store.cells area).drop (0 : UInt16).toNat).take (store.size area) =
      store.cells area := List.take_length
  rw [read, readCells, if_pos whole, all]
  cases area <;> rfl

/-- From the start on, a store of any gate and of any sizes that 64 bits can count answers every
sequence of calls as the ledger of its successful writes does, and its snapshot shows what reads
of whole areas give. -/
theorem answers_eq_ledger (layout : Layout) (gate : Option UInt16)
    (sized : ∀ area, layout.size area < 2 ^ 64) (calls : List StoreCall) :
    (sequence Store.perform calls (.ofLayout layout gate)).1 =
        (sequence Ledger.perform calls ⟨layout, gate, []⟩).1 ∧
      ∀ area, 0 < layout.size area →
        (sequence Store.perform calls (.ofLayout layout gate)).2.read area 0 (layout.size area) =
          .ok ((sequence Store.perform calls (.ofLayout layout gate)).2.snapshot.values area) := by
  have step (call : StoreCall) (store : Store) (ledger : Ledger)
      (related : ledger.layout = layout ∧ ledger.Describes store) :
      (store.perform call).1 = (ledger.perform call).1 ∧
        (ledger.perform call).2.layout = layout ∧
          (ledger.perform call).2.Describes (store.perform call).2 := by
    obtain ⟨rfl, describes⟩ := related
    obtain ⟨sameAnswer, next⟩ := describes.perform sized call
    exact ⟨sameAnswer, Ledger.layout_perform call ledger, next⟩
  obtain ⟨sameAnswers, sameLayout, describes⟩ :=
    sequence_simulation
      (fun (store : Store) (ledger : Ledger) =>
        ledger.layout = layout ∧ ledger.Describes store)
      step calls
      ⟨rfl, Ledger.Describes.initial layout gate⟩
  refine ⟨sameAnswers, fun area present => ?_⟩
  have size := describes.size area
  rw [sameLayout] at size
  rw [← size]
  exact Store.read_whole (by rw [size]; exact sized area) (by rw [size]; exact present)

/-- Two overlapping writes, the second of which opens the gate; from then on a write that heeds
the seal is refused, before anything is said of its kind or its range. -/
theorem overlapping_writes_then_sealed :
    (∀ area, (⟨1, 3, 0, 0⟩ : Layout).size area < 2 ^ 64) ∧
      (sequence Store.perform
        [.write .unlessSealed .coils 0 (.bits [true]),
          .writeCells .discreteInputs 1 [false, true],
          .writeCells .discreteInputs 0 [true, true],
          .read .discreteInputs 0 3,
          .write .unlessSealed .coils 7 (.registers []),
          .write .always .coils 7 (.registers []),
          .read .coils 0 2]
        (.ofLayout ⟨1, 3, 0, 0⟩ (some 1))).1 =
        [.written (.ok ()), .written (.ok ()), .written (.ok ()),
          .values (.ok (.bits [true, true, true])),
          .written (.error (.isSealed .coils)), .written (.error (.kindMismatch .coils)),
          .values (.error (.outOfRange .coils 0 2 1))] := by
  have sized (area : Area) : (⟨1, 3, 0, 0⟩ : Layout).size area < 2 ^ 64 := by
    cases area <;> decide
  exact ⟨sized, (answers_eq_ledger ⟨1, 3, 0, 0⟩ (some 1) sized _).1.trans rfl⟩

end RegisterGateway
