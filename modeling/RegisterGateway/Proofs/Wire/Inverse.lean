import RegisterGateway.Proofs.Wire.Carrying
import RegisterGateway.RawIngest.Frame

/-!
# Packing and unpacking undo each other

Bytes are told apart by their bits, each of which has its place. What is packed has its bits in
their places and false behind them; so unpacking gives back what has been packed, and packing what
has been unpacked gives back the bytes as far as they have been read. Readers that insist on the
right number of bytes find every byte that they look for.
-/

namespace RegisterGateway.Wire

/-! ## Bits in their places -/

/-- The bit at a place of a byte that is there. -/
theorem bitAt_of_getElem? {bytes : List UInt8} {place : Nat} {byte : UInt8}
    (present : bytes[place]? = some byte) {offset : Nat} (small : offset < 8) :
    bitAt bytes (8 * place + offset) = byte.toNat.testBit offset := by
  have quotient : (8 * place + offset) / 8 = place := by omega
  have remainder : (8 * place + offset) % 8 = offset := by omega
  rw [bitAt, quotient, remainder, present, Option.getD_some]

/-- Two bytes with the same bits are the same. -/
theorem eq_of_testBit_eq {first second : UInt8}
    (same : ∀ offset < 8, first.toNat.testBit offset = second.toNat.testBit offset) :
    first = second := by
  apply UInt8.toNat_inj.1
  apply Nat.eq_of_testBit_eq
  intro offset
  by_cases small : offset < 8
  · exact same offset small
  · have beyond (byte : UInt8) : byte.toNat.testBit offset = false :=
      Nat.testBit_lt_two_pow (Nat.lt_of_lt_of_le byte.toNat_lt
        (Nat.pow_le_pow_right (by decide) (Nat.not_lt.1 small)))
    rw [beyond, beyond]

/-- As many bytes with the same bits are the same. -/
theorem eq_of_bitAt_eq {first second : List UInt8} (size : first.length = second.length)
    (same : ∀ index, bitAt first index = bitAt second index) : first = second := by
  refine List.ext_getElem size fun place inFirst inSecond => ?_
  refine eq_of_testBit_eq fun offset small => ?_
  rw [← bitAt_of_getElem? (List.getElem?_eq_getElem inFirst) small,
    ← bitAt_of_getElem? (List.getElem?_eq_getElem inSecond) small]
  exact same _

theorem getElem?_unpack {bytes : List UInt8} {count index : Nat} (inside : index < count) :
    (unpack bytes count)[index]? = some (bitAt bytes index) := by
  rw [unpack_eq_map_bitAt, List.getElem?_map, List.getElem?_range inside, Option.map_some]

/-! ## Packing -/

/-- Packed bits stand in their places, and behind them every bit is false. -/
theorem bitAt_pack (bits : List Bool) (index : Nat) :
    bitAt (pack bits) index = bits[index]?.getD false := by
  have total : bits.length ≤ 8 * packedSize bits.length := by
    rw [packedSize]
    omega
  by_cases inside : index < 8 * (pack bits).length
  · have packed := getElem?_flatMap_bitsOfByte (pack bits) inside
    rw [flatMap_bitsOfByte_pack, List.getElem?_append] at packed
    rw [length_pack] at inside
    split at packed
    · rw [packed, Option.getD_some]
    · rename_i behind
      rw [List.getElem?_replicate_of_lt (by omega), Option.some.injEq] at packed
      rw [← packed, List.getElem?_eq_none (Nat.not_lt.1 behind), Option.getD_none]
  · rw [bitAt_of_length_le (Nat.not_lt.1 inside)]
    rw [length_pack] at inside
    rw [List.getElem?_eq_none (by omega), Option.getD_none]

theorem unpack_pack (bits : List Bool) : unpack (pack bits) bits.length = bits := by
  have short : 8 * packedSize bits.length - bits.length < 8 := by
    rw [packedSize]
    omega
  have carried : ∃ padding, (pack bits).flatMap bitsOfByte = bits ++ padding ∧ padding.length < 8 :=
    ⟨_, flatMap_bitsOfByte_pack bits, by rwa [List.length_replicate]⟩
  exact (carries_bits_iff.1 carried).2

/-- The first bytes, as many as a number of bits needs, with the bits behind these cleared. -/
def cleared (count : Nat) (bytes : List UInt8) : List UInt8 :=
  (bytes.take (packedSize count)).mapIdx fun place byte =>
    UInt8.ofNat (byte.toNat % 2 ^ (count - 8 * place))

theorem length_cleared {count : Nat} {bytes : List UInt8} (enough : count ≤ 8 * bytes.length) :
    (cleared count bytes).length = packedSize count := by
  rw [cleared, List.length_mapIdx, List.length_take, packedSize]
  omega

theorem testBit_clearedByte (byte : UInt8) (kept offset : Nat) :
    (UInt8.ofNat (byte.toNat % 2 ^ kept)).toNat.testBit offset =
      (decide (offset < kept) && byte.toNat.testBit offset) := by
  have small : byte.toNat % 2 ^ kept < 2 ^ 8 :=
    Nat.lt_of_le_of_lt (Nat.mod_le _ _) byte.toNat_lt
  rw [UInt8.toNat_ofNat', Nat.mod_eq_of_lt small, Nat.testBit_mod_two_pow]

theorem bitAt_cleared (count : Nat) (bytes : List UInt8) (index : Nat) :
    bitAt (cleared count bytes) index = (decide (index < count) && bitAt bytes index) := by
  have inside : index % 8 < count - 8 * (index / 8) ↔ index < count := by omega
  rw [bitAt, bitAt, cleared, List.getElem?_mapIdx, List.getElem?_take]
  split
  · cases bytes[index / 8]? with
    | none => simp
    | some byte =>
        rw [Option.map_some, Option.getD_some, Option.getD_some, testBit_clearedByte,
          decide_eq_decide.2 inside]
  · rename_i behind
    have outside : ¬ index < count := by
      rw [packedSize] at behind
      omega
    simp [outside]

/-- Packing what has been unpacked gives the bytes that have been read. -/
theorem pack_unpack {bytes : List UInt8} {count : Nat} (enough : count ≤ 8 * bytes.length) :
    pack (unpack bytes count) = cleared count bytes := by
  refine eq_of_bitAt_eq ?_ fun index => ?_
  · rw [length_pack, length_unpack, length_cleared enough]
  · rw [bitAt_pack, bitAt_cleared]
    by_cases inside : index < count
    · rw [getElem?_unpack inside, Option.getD_some, decide_eq_true inside, Bool.true_and]
    · rw [List.getElem?_eq_none (by rw [length_unpack]; omega), Option.getD_none,
        decide_eq_false inside, Bool.false_and]

/-! ## Payloads of the right size -/

theorem alignBits_eq_ok_iff {payload : List UInt8} {count : UInt16} {bits : List Bool} :
    RawIngest.alignBits payload count = .ok bits ↔
      payload.length = packedSize count.toNat ∧ unpack payload count.toNat = bits := by
  rw [RawIngest.alignBits, unpack?_eq]
  split_ifs with whole <;> simp [whole]

theorem alignRegisters_eq_ok_iff {payload : List UInt8} {count : UInt16} {words : List UInt16} :
    RawIngest.alignRegisters payload count = .ok words ↔
      payload.length = 2 * count.toNat ∧ wordsOfBytes payload = words := by
  rw [RawIngest.alignRegisters]
  split_ifs with whole <;> simp [whole]

/-- In bytes of the right number every bit has a byte. -/
theorem exists_byte_of_lt {bytes : List UInt8} {count index : Nat}
    (whole : bytes.length = packedSize count) (inside : index < count) :
    ∃ byte, bytes[index / 8]? = some byte ∧
      (unpack bytes count)[index]? = some (byte.toNat.testBit (index % 8)) := by
  have present : index / 8 < bytes.length := by
    rw [whole, packedSize]
    omega
  have found := List.getElem?_eq_getElem present
  exact ⟨bytes[index / 8], found, by rw [getElem?_unpack inside, bitAt, found, Option.getD_some]⟩

/-- Words are told apart by their bytes. -/
theorem bytesOfWords_eq_iff {bytes : List UInt8} {count : Nat} (whole : bytes.length = 2 * count)
    (words : List UInt16) : bytesOfWords words = bytes ↔ words = wordsOfBytes bytes := by
  constructor
  · rintro rfl
    exact (wordsOfBytes_bytesOfWords words).symm
  · rintro rfl
    exact bytesOfWords_wordsOfBytes whole

/-- Bits that are packed are unpacked again, with false in the places behind them. Bits that are
unpacked stand in their places, false where a byte is missing, and give back the bytes when they are
packed. A payload has its bits or words read if it has the right size; each bit is then that of a
byte of the payload, and the words are the only ones with these bytes. -/
theorem packing_inverts_unpacking :
    (∀ bits : List Bool, (pack bits).length = (bits.length + 7) / 8 ∧
      (∀ index, bits.length ≤ index → bitAt (pack bits) index = false) ∧
      unpack (pack bits) bits.length = bits) ∧
    (∀ (bytes : List UInt8) (count : Nat), (unpack bytes count).length = count ∧
      (∀ index < count, (unpack bytes count)[index]? = some (bitAt bytes index)) ∧
      (count ≤ 8 * bytes.length → pack (unpack bytes count) = cleared count bytes)) ∧
    (∀ (bytes : List UInt8) (count : UInt16),
      ((∃ bits, RawIngest.alignBits bytes count = .ok bits) ↔
        bytes.length = (count.toNat + 7) / 8) ∧
      ∀ bits, RawIngest.alignBits bytes count = .ok bits → bits = unpack bytes count.toNat ∧
        ∀ index < count.toNat, ∃ byte, bytes[index / 8]? = some byte ∧
          bits[index]? = some (byte.toNat.testBit (index % 8))) ∧
    ∀ (bytes : List UInt8) (count : UInt16),
      ((∃ words, RawIngest.alignRegisters bytes count = .ok words) ↔
        bytes.length = 2 * count.toNat) ∧
      ∀ words, RawIngest.alignRegisters bytes count = .ok words →
        ∀ others, bytesOfWords others = bytes ↔ others = words := by
  refine ⟨fun bits => ⟨length_pack bits, fun index behind => ?_, unpack_pack bits⟩,
    fun bytes count => ⟨length_unpack bytes count, fun _ => getElem?_unpack, pack_unpack⟩,
    fun bytes count => ⟨?_, fun bits read => ?_⟩, fun bytes count => ⟨?_, fun words read => ?_⟩⟩
  · rw [bitAt_pack, List.getElem?_eq_none behind, Option.getD_none]
  · simp only [alignBits_eq_ok_iff, packedSize, exists_and_left, exists_eq', and_true]
  · obtain ⟨whole, rfl⟩ := alignBits_eq_ok_iff.1 read
    exact ⟨rfl, fun index => exists_byte_of_lt whole⟩
  · simp only [alignRegisters_eq_ok_iff, exists_and_left, exists_eq', and_true]
  · obtain ⟨whole, rfl⟩ := alignRegisters_eq_ok_iff.1 read
    exact bytesOfWords_eq_iff whole

def elevenBits : List Bool :=
  [true, false, true, false, true, true, false, true, true, true, true]

/-- Eleven bits of three bytes, of which the last is not read at all and the second in part; as a
payload the first two are just enough. -/
theorem eleven_bits_repacked :
    11 ≤ 8 * [0xB5, 0xFF, 0x01].length ∧ pack (unpack [0xB5, 0xFF, 0x01] 11) = [0xB5, 0x07] ∧
      (unpack [0xB5, 0xFF, 0x01] 11)[10]? = some true ∧ bitAt (pack elevenBits) 11 = false ∧
      RawIngest.alignBits [0xB5, 0xFF] 11 = .ok elevenBits ∧
      elevenBits = unpack [0xB5, 0xFF] 11 ∧
      (∃ byte, [(0xB5 : UInt8), 0xFF][10 / 8]? = some byte ∧
        elevenBits[10]? = some (byte.toNat.testBit (10 % 8))) ∧
      RawIngest.alignRegisters [0x12, 0x34, 0xFF, 0x00] 2 = .ok [0x1234, 0xFF00] ∧
      ∀ others, bytesOfWords others = [0x12, 0x34, 0xFF, 0x00] ↔ others = [0x1234, 0xFF00] := by
  obtain ⟨packing, unpacking, payloads, words⟩ := packing_inverts_unpacking
  have enough : 11 ≤ 8 * [(0xB5 : UInt8), 0xFF, 0x01].length := by decide
  have bitsRead : RawIngest.alignBits [0xB5, 0xFF] 11 = .ok elevenBits := rfl
  have wordsRead : RawIngest.alignRegisters [0x12, 0x34, 0xFF, 0x00] 2 = .ok [0x1234, 0xFF00] := rfl
  obtain ⟨unpacked, present⟩ := (payloads _ 11).2 _ bitsRead
  exact ⟨enough, ((unpacking _ 11).2.2 enough).trans (by decide),
    (unpacking _ 11).2.1 10 (by decide), (packing elevenBits).2.1 11 (by decide), bitsRead,
    unpacked, present 10 (by decide), wordsRead, (words _ 2).2 _ wordsRead⟩

end RegisterGateway.Wire
