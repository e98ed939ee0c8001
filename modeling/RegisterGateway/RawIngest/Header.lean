import RegisterGateway.Register.Area
import RegisterGateway.Wire.Bits
import RegisterGateway.Wire.Word

/-!
# Headers of ingest frames

An ingest frame writes one range of one memory. Its header has twelve bytes: two magic
bytes, the version, flags, the number of the area, a reserved byte, and as words the id of
the memory, the address and the number of values. Area and number decide how many bytes of
payload follow.
-/

namespace RegisterGateway.RawIngest

/-- Why a frame is turned down. -/
inductive Rejection where
  | badMagic
  | unsupportedVersion (version : UInt8)
  | invalidArea (code : UInt8)
  | zeroCount
  | frameTooLarge (size : Nat)
  | truncated
  | timeout
  | unknownMemory (id : UInt16)
  | misaligned
  | writeFailed
  deriving DecidableEq, Repr

def Rejection.message : Rejection → String
  | .badMagic => "bad magic"
  | .unsupportedVersion version =>
      let number := version.toNat
      s!"unsupported version {number}"
  | .invalidArea code =>
      let number := code.toNat
      s!"invalid area {number}"
  | .zeroCount => "zero count"
  | .frameTooLarge size => s!"frame of {size} bytes exceeds max packet size"
  | .truncated => "truncated frame"
  | .timeout => "read timeout"
  | .unknownMemory id =>
      let number := id.toNat
      s!"unknown memory id {number}"
  | .misaligned => "payload misaligned"
  | .writeFailed => "memory write failed"

/-- The header of an ingest frame. -/
structure Header where
  version : UInt8
  flags : UInt8
  area : Area
  memoryId : UInt16
  address : UInt16
  count : UInt16
  deriving DecidableEq, Repr

/-- The number of payload bytes for a number of values of an area: eight bits or half a word
to a byte. -/
def payloadSize (area : Area) (count : Nat) : Nat :=
  if area.isBit then Wire.packedSize count else 2 * count

namespace Header

/-- The number of bytes of a header. -/
def byteCount : Nat := 12

/-- The first byte of every frame. -/
def magicHigh : UInt8 := 0x52

/-- The second byte of every frame. -/
def magicLow : UInt8 := 0x49

def currentVersion : UInt8 := 1

/-- The number of payload bytes that follow a header. -/
def payloadSize (header : Header) : Nat :=
  RawIngest.payloadSize header.area header.count.toNat

/-- The bytes of a header; the reserved byte is zero. -/
def encode (header : Header) : List UInt8 :=
  [magicHigh, magicLow, header.version, header.flags, header.area.code, 0] ++
    Wire.wordBytes header.memoryId ++ Wire.wordBytes header.address ++
    Wire.wordBytes header.count

/-- Reads a header: magic, version, area and number of values are checked in this order; the
reserved byte may be anything. Fewer or more bytes than a header has are no frame. -/
def parse : List UInt8 → Except Rejection Header
  | [m1, m0, version, flags, area, _, i1, i0, a1, a0, c1, c0] =>
      if m1 ≠ magicHigh ∨ m0 ≠ magicLow then .error .badMagic
      else if version ≠ currentVersion then .error (.unsupportedVersion version)
      else match Area.ofCode? area with
        | none => .error (.invalidArea area)
        | some area =>
          let count := Wire.wordOfBytes c1 c0
          if count = 0 then .error .zeroCount
          else .ok ⟨version, flags, area, Wire.wordOfBytes i1 i0, Wire.wordOfBytes a1 a0, count⟩
  | _ => .error .truncated

end Header

end RegisterGateway.RawIngest
