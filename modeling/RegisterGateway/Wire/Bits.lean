/-!
# Packed bits

Bits travel eight to a byte, the first bit in the least significant place; the places of
a last byte that no bit fills are zero. `unpack` reads any number of bits and takes a
missing byte for zero, `unpack?` insists on exactly the bytes that the bits need.
-/

namespace RegisterGateway.Wire

/-- The bytes needed for a number of bits. -/
def packedSize (count : Nat) : Nat :=
  (count + 7) / 8

/-- The byte with the given bits, the first one least significant. -/
def byteOfBits (bits : List Bool) : UInt8 :=
  UInt8.ofNat (bits.foldr (fun bit rest => bit.toNat + 2 * rest) 0)

/-- The eight bits of a byte, the least significant one first. -/
def bitsOfByte (byte : UInt8) : List Bool :=
  (List.range 8).map byte.toNat.testBit

/-- Packs bits into bytes, eight to a byte. -/
def pack : List Bool → List UInt8
  | [] => []
  | bit :: rest => byteOfBits (bit :: rest.take 7) :: pack (rest.drop 7)
termination_by bits => bits.length
decreasing_by
  simp only [List.length_drop, List.length_cons]
  omega

/-- The first bits of some bytes; where a byte is missing its bits are zero. -/
def unpack (bytes : List UInt8) (count : Nat) : List Bool :=
  let present := (bytes.flatMap bitsOfByte).take count
  present ++ List.replicate (count - present.length) false

/-- The bits of exactly the bytes that they need: each is looked up in its byte, which is there. -/
def unpack? (bytes : List UInt8) (count : Nat) : Option (List Bool) :=
  let payload := bytes.toArray
  if whole : payload.size = packedSize count then
    some (List.ofFn fun index : Fin count =>
      have present : index.val / 8 < payload.size := by
        rw [whole, packedSize]
        omega
      payload[index.val / 8].toNat.testBit (index.val % 8))
  else none

@[simp] theorem length_bitsOfByte (byte : UInt8) : (bitsOfByte byte).length = 8 := by
  simp [bitsOfByte]

@[simp] theorem length_unpack (bytes : List UInt8) (count : Nat) :
    (unpack bytes count).length = count := by
  simp only [unpack, List.length_append, List.length_replicate, List.length_take]
  omega

@[simp] theorem length_pack (bits : List Bool) : (pack bits).length = packedSize bits.length := by
  fun_induction pack bits with
  | case1 => rfl
  | case2 bit rest ih =>
    simp only [List.length_cons, ih, packedSize, List.length_drop]
    omega

end RegisterGateway.Wire
