/-!
# Register areas

A memory has four areas: two of bits (coils, discrete inputs) and two of 16-bit words
(holding registers, input registers). `Area.Cell` is the type of one cell, so lists of
cells of an area are typed by it, and `Values` is what arrives from outside before its
kind has been compared with an area.
-/

namespace RegisterGateway

/-- One of the four register areas. -/
inductive Area where
  | coils
  | discreteInputs
  | holdingRegisters
  | inputRegisters
  deriving DecidableEq, Repr, Inhabited

namespace Area

def all : List Area := [.coils, .discreteInputs, .holdingRegisters, .inputRegisters]

def name : Area → String
  | .coils => "coils"
  | .discreteInputs => "discrete_inputs"
  | .holdingRegisters => "holding_registers"
  | .inputRegisters => "input_registers"

/-- The area of a name; names are compared exactly. -/
def ofName? (text : String) : Option Area :=
  all.find? (fun area => area.name = text)

/-- The wording for a text that names no area. -/
def unknownMessage (text : String) : String :=
  "unknown area: " ++ text

/-- Whether the cells of an area are bits. -/
def isBit : Area → Bool
  | .coils | .discreteInputs => true
  | .holdingRegisters | .inputRegisters => false

/-- Whether an area belongs to the operator: these are the areas that sealing closes. -/
def isOperator : Area → Bool
  | .coils | .holdingRegisters => true
  | .discreteInputs | .inputRegisters => false

/-- The number of an area in ingest frames. -/
def code : Area → UInt8
  | .coils => 1
  | .discreteInputs => 2
  | .holdingRegisters => 3
  | .inputRegisters => 4

def ofCode? (value : UInt8) : Option Area :=
  all.find? (fun area => area.code = value)

@[reducible] def Cell : Area → Type
  | .coils => Bool
  | .discreteInputs => Bool
  | .holdingRegisters => UInt16
  | .inputRegisters => UInt16

/-- What a cell holds before it is first written. -/
def zero : (area : Area) → area.Cell
  | .coils => false
  | .discreteInputs => false
  | .holdingRegisters => 0
  | .inputRegisters => 0

@[simp] theorem ofName?_name (area : Area) : ofName? area.name = some area := by
  cases area <;> decide

@[simp] theorem ofCode?_code (area : Area) : ofCode? area.code = some area := by
  cases area <;> decide

theorem ofName?_eq_some_iff {text : String} {area : Area} :
    ofName? text = some area ↔ area.name = text := by
  constructor
  · intro found
    simpa using List.find?_some found
  · rintro rfl
    exact ofName?_name area

/-- No two areas have the same name. -/
theorem name_inj {first second : Area} (same : first.name = second.name) : first = second :=
  Option.some.inj ((ofName?_eq_some_iff.2 same).symm.trans (ofName?_name second))

theorem ofCode?_eq_some_iff {value : UInt8} {area : Area} :
    ofCode? value = some area ↔ area.code = value := by
  constructor
  · intro found
    simpa using List.find?_some found
  · rintro rfl
    exact ofCode?_code area

end Area

/-- Values as they arrive or leave: a list of bits or a list of words. -/
inductive Values where
  | bits (values : List Bool)
  | registers (values : List UInt16)
  deriving DecidableEq, Repr

namespace Values

def length : Values → Nat
  | .bits values => values.length
  | .registers values => values.length

def ofCells : (area : Area) → List area.Cell → Values
  | .coils => .bits
  | .discreteInputs => .bits
  | .holdingRegisters => .registers
  | .inputRegisters => .registers

/-- Values as cells of an area, if they are of its kind. -/
def cellsFor? : (area : Area) → Values → Option (List area.Cell)
  | .coils, .bits values => some values
  | .discreteInputs, .bits values => some values
  | .holdingRegisters, .registers values => some values
  | .inputRegisters, .registers values => some values
  | _, _ => none

@[simp] theorem length_ofCells (area : Area) (cells : List area.Cell) :
    (ofCells area cells).length = cells.length := by
  cases area <;> rfl

@[simp] theorem cellsFor?_ofCells (area : Area) (cells : List area.Cell) :
    (ofCells area cells).cellsFor? area = some cells := by
  cases area <;> rfl

theorem cellsFor?_eq_some_iff {area : Area} {values : Values} {cells : List area.Cell} :
    values.cellsFor? area = some cells ↔ values = ofCells area cells := by
  cases area <;> cases values <;> simp [cellsFor?, ofCells]

end Values

end RegisterGateway
