/-!
# Modbus functions and exceptions

The eight functions that are served, and the three exception codes with which a request
is turned down. A response is an exception exactly if its first byte has the high bit.
-/

namespace RegisterGateway.Modbus

/-- The functions that are served. -/
inductive Function where
  | readCoils
  | readDiscreteInputs
  | readHoldingRegisters
  | readInputRegisters
  | writeSingleCoil
  | writeSingleRegister
  | writeMultipleCoils
  | writeMultipleRegisters
  deriving DecidableEq, Repr

namespace Function

/-- The functions in the order of their codes. -/
def all : List Function :=
  [.readCoils, .readDiscreteInputs, .readHoldingRegisters, .readInputRegisters,
    .writeSingleCoil, .writeSingleRegister, .writeMultipleCoils, .writeMultipleRegisters]

def code : Function → UInt8
  | .readCoils => 1
  | .readDiscreteInputs => 2
  | .readHoldingRegisters => 3
  | .readInputRegisters => 4
  | .writeSingleCoil => 5
  | .writeSingleRegister => 6
  | .writeMultipleCoils => 15
  | .writeMultipleRegisters => 16

def ofCode? (value : UInt8) : Option Function :=
  all.find? (fun function => function.code = value)

@[simp] theorem ofCode?_code (function : Function) : ofCode? function.code = some function := by
  cases function <;> decide

theorem ofCode?_eq_some_iff {value : UInt8} {function : Function} :
    ofCode? value = some function ↔ function.code = value := by
  constructor
  · intro found
    simpa using List.find?_some found
  · rintro rfl
    exact ofCode?_code function

end Function

/-- Why a request is turned down. -/
inductive Fault where
  | illegalFunction
  | illegalDataAddress
  | illegalDataValue
  deriving DecidableEq, Repr

def Fault.code : Fault → UInt8
  | .illegalFunction => 1
  | .illegalDataAddress => 2
  | .illegalDataValue => 3

/-- The exception response to a function code: the code with its high bit, and the fault. -/
def exceptionResponse (code : UInt8) (fault : Fault) : List UInt8 :=
  [code ||| 0x80, fault.code]

def isException : List UInt8 → Bool
  | [] => false
  | code :: _ => code &&& 0x80 != 0

end RegisterGateway.Modbus
