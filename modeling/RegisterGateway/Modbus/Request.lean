import RegisterGateway.Modbus.Function
import RegisterGateway.Register.Area
import RegisterGateway.Wire.Bits
import RegisterGateway.Wire.Word

/-!
# Modbus requests

A request is a function code and its data. `Request.ofData` decodes the data of a known
function into what the request asks of a memory: to read a range of an area, or to write
values there. Bytes after the part that the function uses are ignored.
-/

namespace RegisterGateway.Modbus

/-- What a request asks of a memory. -/
inductive Request where
  | read (area : Area) (address : UInt16) (count : Nat)
  | write (area : Area) (address : UInt16) (values : List area.Cell)

namespace Request

/-- The most bits that one request may read. -/
def maxReadBits : Nat := 2000
/-- The most words that one request may read. -/
def maxReadRegisters : Nat := 125
/-- The most bits that one request may write. -/
def maxWriteBits : Nat := 1968
/-- The most words that one request may write. -/
def maxWriteRegisters : Nat := 123

/-- A quantity of zero counts as an address fault, one above the limit as a value fault. -/
def checkQuantity (quantity limit : Nat) : Except Fault Unit :=
  if quantity = 0 then .error .illegalDataAddress
  else if quantity > limit then .error .illegalDataValue
  else .ok ()

/-- The payload of a write: its length stands in front of it and must be the expected one,
and so many bytes must follow. -/
def payload (rest : List UInt8) (expected : Nat) : Except Fault (List UInt8) :=
  match rest with
  | [] => .error .illegalDataValue
  | size :: bytes =>
      if size.toNat ≠ expected then .error .illegalDataValue
      else if bytes.length < expected then .error .illegalDataValue
      else .ok (bytes.take expected)

/-- The value of a single coil: two of the words have a meaning. -/
def coilValue (word : UInt16) : Except Fault Bool :=
  if word = 0xFF00 then .ok true
  else if word = 0x0000 then .ok false
  else .error .illegalDataValue

/-- Decodes the data of a function: an address, a second word, and what follows them. -/
def ofData (function : Function) : List UInt8 → Except Fault Request
  | a1 :: a0 :: q1 :: q0 :: rest => do
      let address := Wire.wordOfBytes a1 a0
      let word := Wire.wordOfBytes q1 q0
      let quantity := word.toNat
      match function with
      | .readCoils =>
          checkQuantity quantity maxReadBits
          pure (.read .coils address quantity)
      | .readDiscreteInputs =>
          checkQuantity quantity maxReadBits
          pure (.read .discreteInputs address quantity)
      | .readHoldingRegisters =>
          checkQuantity quantity maxReadRegisters
          pure (.read .holdingRegisters address quantity)
      | .readInputRegisters =>
          checkQuantity quantity maxReadRegisters
          pure (.read .inputRegisters address quantity)
      | .writeSingleCoil =>
          let value ← coilValue word
          pure (.write .coils address [value])
      | .writeSingleRegister =>
          pure (.write .holdingRegisters address [word])
      | .writeMultipleCoils =>
          checkQuantity quantity maxWriteBits
          let bytes ← payload rest (Wire.packedSize quantity)
          pure (.write .coils address (Wire.unpack bytes quantity))
      | .writeMultipleRegisters =>
          checkQuantity quantity maxWriteRegisters
          let bytes ← payload rest (2 * quantity)
          pure (.write .holdingRegisters address (Wire.wordsOfBytes bytes))
  | _ => .error .illegalDataValue

end Request

end RegisterGateway.Modbus
