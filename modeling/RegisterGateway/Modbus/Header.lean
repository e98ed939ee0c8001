import RegisterGateway.Wire.Word

/-!
# Modbus TCP headers

Every Modbus TCP frame starts with seven bytes: transaction id, protocol id, the number of
bytes that follow the length field (unit id included), and the unit id.
-/

namespace RegisterGateway.Modbus

/-- The header of a Modbus TCP frame. -/
structure Header where
  transactionId : UInt16
  protocolId : UInt16
  length : UInt16
  unitId : UInt8
  deriving DecidableEq, Repr

/-- What is wrong with a header. -/
inductive MalformedFrame where
  | unexpectedProtocolId (id : UInt16)
  | invalidLength (length : UInt16)
  deriving DecidableEq, Repr

/-- The wording of a header fault. -/
def MalformedFrame.message : MalformedFrame → String
  | .unexpectedProtocolId id =>
      let number := id.toNat
      s!"malformed frame: unexpected protocol id {number}"
  | .invalidLength length =>
      let number := length.toNat
      s!"malformed frame: invalid mbap length {number}"

namespace Header

/-- The number of bytes of a header. -/
def byteCount : Nat := 7

/-- The largest length field: a unit id and a request of 253 bytes. -/
def maxLength : Nat := 254

/-- Takes a header off the front of some bytes, if there are enough of them. -/
def read? : List UInt8 → Option (Header × List UInt8)
  | t1 :: t0 :: p1 :: p0 :: l1 :: l0 :: unit :: rest =>
      some (⟨Wire.wordOfBytes t1 t0, Wire.wordOfBytes p1 p0, Wire.wordOfBytes l1 l0, unit⟩, rest)
  | _ => none

def encode (header : Header) : List UInt8 :=
  Wire.wordBytes header.transactionId ++ Wire.wordBytes header.protocolId ++
    Wire.wordBytes header.length ++ [header.unitId]

/-- The number of bytes of the request that follows: the protocol id must be zero and the
length leave room for a unit id and at least one byte. -/
def bodyLength (header : Header) : Except MalformedFrame Nat :=
  if header.protocolId ≠ 0 then .error (.unexpectedProtocolId header.protocolId)
  else if header.length.toNat < 2 ∨ maxLength < header.length.toNat then
    .error (.invalidLength header.length)
  else .ok (header.length.toNat - 1)

theorem length_of_read? {bytes rest : List UInt8} {header : Header}
    (taken : read? bytes = some (header, rest)) : bytes.length = rest.length + byteCount := by
  unfold read? at taken
  split at taken
  · simp only [Option.some.injEq, Prod.mk.injEq] at taken
    simp [← taken.2, byteCount]
  · contradiction

end Header

/-- The frame of a response: the request's transaction and unit id in front of it. -/
def encodeResponse (request : Header) (response : List UInt8) : List UInt8 :=
  Header.encode ⟨request.transactionId, 0, UInt16.ofNat (response.length + 1), request.unitId⟩ ++
    response

end RegisterGateway.Modbus
