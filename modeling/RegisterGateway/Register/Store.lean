import RegisterGateway.Register.Area

/-!
# Register stores

A store holds the cells of the four areas of one memory and its run state. A read or a
write is refused as a whole, by `inRange`, before any cell is touched. A store may have a
gate, the address of a discrete input: it then starts before its run (`preRun`), and the
first write that sets the gate to true starts the run for good. Once a gated store runs,
its operator areas are sealed for writes of mode `unlessSealed`.
-/

namespace RegisterGateway

/-- The sizes of the four areas. -/
structure Layout where
  coils : Nat
  discreteInputs : Nat
  holdingRegisters : Nat
  inputRegisters : Nat
  deriving DecidableEq, Repr

def Layout.size (layout : Layout) : Area → Nat
  | .coils => layout.coils
  | .discreteInputs => layout.discreteInputs
  | .holdingRegisters => layout.holdingRegisters
  | .inputRegisters => layout.inputRegisters

/-- Whether the run of a memory has begun. -/
inductive RunState where
  | preRun
  | run
  deriving DecidableEq, Repr

def RunState.name : RunState → String
  | .preRun => "pre_run"
  | .run => "run"

/-- Whether a write heeds the seal of a running gated store. -/
inductive WriteMode where
  | always
  | unlessSealed
  deriving DecidableEq, Repr

/-- Why a store refuses a read or a write. -/
inductive StoreError where
  | outOfRange (area : Area) (address : UInt16) (count size : Nat)
  | kindMismatch (area : Area)
  | isSealed (area : Area)
  deriving DecidableEq, Repr

/-- The wording of a refusal. -/
def StoreError.message : StoreError → String
  | .outOfRange area address count size =>
      let start := address.toNat
      let name := area.name
      s!"out of range: {name} address={start} count={count} size={size}"
  | .kindMismatch area => "value kind does not match area " ++ area.name
  | .isSealed area => "area " ++ area.name ++ " is sealed after run"

/-- The cells of one memory, its gate and its run state. -/
structure Store where
  coils : List Bool
  discreteInputs : List Bool
  holdingRegisters : List UInt16
  inputRegisters : List UInt16
  gate : Option UInt16
  state : RunState
  deriving DecidableEq, Repr

/-- The four areas and the run state of a memory, copied at one moment. -/
structure Snapshot where
  coils : List Bool
  discreteInputs : List Bool
  holdingRegisters : List UInt16
  inputRegisters : List UInt16
  state : RunState
  deriving DecidableEq, Repr

/-- The sum of two sizes, unless it is too large for a number of 64 bits. -/
def checkedSum? (first second : Nat) : Option Nat :=
  if first + second < 0x10000000000000000 then some (first + second) else none

/-- Puts values over the cells from a start on; the other cells stay. -/
def overwrite {α : Type} (cells : List α) (start : Nat) (values : List α) : List α :=
  cells.take start ++ values ++ cells.drop (start + values.length)

namespace Store

/-- The store with all cells zero that a layout describes; with a gate it has yet to run. -/
def ofLayout (layout : Layout) (gate : Option UInt16) : Store where
  coils := List.replicate layout.coils false
  discreteInputs := List.replicate layout.discreteInputs false
  holdingRegisters := List.replicate layout.holdingRegisters 0
  inputRegisters := List.replicate layout.inputRegisters 0
  gate := gate
  state := if gate.isSome then .preRun else .run

def cells (store : Store) : (area : Area) → List area.Cell
  | .coils => store.coils
  | .discreteInputs => store.discreteInputs
  | .holdingRegisters => store.holdingRegisters
  | .inputRegisters => store.inputRegisters

/-- The number of cells of one area. -/
def size (store : Store) (area : Area) : Nat :=
  (store.cells area).length

/-- The sizes of the areas. -/
def layout (store : Store) : Layout where
  coils := store.size .coils
  discreteInputs := store.size .discreteInputs
  holdingRegisters := store.size .holdingRegisters
  inputRegisters := store.size .inputRegisters

/-- Whether the run of a store has yet to begin. -/
def isPreRun (store : Store) : Bool :=
  store.state = .preRun

/-- Whether the operator areas are closed: the store has a gate and runs. -/
def isSealed (store : Store) : Bool :=
  store.gate.isSome && store.state = .run

/-- A range of cells is one or more cells that all lie inside the area. -/
def inRange (store : Store) (area : Area) (address : UInt16) (count : Nat) : Bool :=
  match checkedSum? address.toNat count with
  | some stop => 0 < count && stop ≤ store.size area
  | none => false

/-- The whole store, without its gate. -/
def snapshot (store : Store) : Snapshot where
  coils := store.coils
  discreteInputs := store.discreteInputs
  holdingRegisters := store.holdingRegisters
  inputRegisters := store.inputRegisters
  state := store.state

def readCells (store : Store) (area : Area) (address : UInt16) (count : Nat) :
    Except StoreError (List area.Cell) :=
  if store.inRange area address count then
    .ok (((store.cells area).drop address.toNat).take count)
  else
    .error (.outOfRange area address count (store.size area))

/-- The cells of a range as values. -/
def read (store : Store) (area : Area) (address : UInt16) (count : Nat) :
    Except StoreError Values :=
  (store.readCells area address count).map (Values.ofCells area)

def withCells (store : Store) : (area : Area) → List area.Cell → Store
  | .coils, cells => { store with coils := cells }
  | .discreteInputs, cells => { store with discreteInputs := cells }
  | .holdingRegisters, cells => { store with holdingRegisters := cells }
  | .inputRegisters, cells => { store with inputRegisters := cells }

def opensGate (gate : UInt16) (area : Area) (address : UInt16) (values : List area.Cell) : Bool :=
  match area, values with
  | .discreteInputs, values =>
      address.toNat ≤ gate.toNat && values[gate.toNat - address.toNat]? == some true
  | _, _ => false

def stateAfter (store : Store) (area : Area) (address : UInt16) (values : List area.Cell) :
    RunState :=
  match store.gate with
  | some gate => if opensGate gate area address values then .run else store.state
  | none => store.state

/-- Puts values into an area that has room for them, and begins the run if they open the
gate. -/
def put (store : Store) (area : Area) (address : UInt16) (values : List area.Cell) : Store :=
  { store.withCells area (overwrite (store.cells area) address.toNat values) with
    state := store.stateAfter area address values }

def refusesAsSealed (store : Store) (mode : WriteMode) (area : Area) : Bool :=
  mode = .unlessSealed && area.isOperator && store.isSealed

/-- Writes cells of the right kind, if the seal and the range allow it. -/
def writeCells (store : Store) (mode : WriteMode) (area : Area) (address : UInt16)
    (values : List area.Cell) : Except StoreError Store :=
  if store.refusesAsSealed mode area then .error (.isSealed area)
  else if store.inRange area address values.length then .ok (store.put area address values)
  else .error (.outOfRange area address values.length (store.size area))

/-- Writes values: the seal is checked first, then their kind, then the range. -/
def write (store : Store) (mode : WriteMode) (area : Area) (address : UInt16)
    (values : Values) : Except StoreError Store :=
  match values.cellsFor? area with
  | some cells => store.writeCells mode area address cells
  | none =>
      if store.refusesAsSealed mode area then .error (.isSealed area)
      else .error (.kindMismatch area)

end Store

end RegisterGateway
