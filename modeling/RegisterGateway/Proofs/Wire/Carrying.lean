import Mathlib
import RegisterGateway.Proofs.Wire.Layout
import RegisterGateway.RawIngest.Header

/-!
# What bytes carry

All bit decoders and encoders are compared with one relation between bytes and cells: the bits of
the bytes, one byte after the other and the least significant bit first, are the cells and behind
them some padding that does not fill a byte; words are two bytes each, the more significant one
first. Decoders take any padding, the encoder leaves false there.
-/

namespace RegisterGateway.Wire

/-! ## Numbers of bits -/

/-- The number with the given bits, the first one least significant. -/
def numberOf (bits : List Bool) : Nat :=
  bits.foldr (fun bit rest => bit.toNat + 2 * rest) 0

theorem numberOf_cons (bit : Bool) (rest : List Bool) :
    numberOf (bit :: rest) = bit.toNat + 2 * numberOf rest := rfl

theorem testBit_numberOf (bits : List Bool) (index : Nat) :
    (numberOf bits).testBit index = bits[index]?.getD false := by
  induction bits generalizing index with
  | nil => exact Nat.zero_testBit index
  | cons bit rest ih =>
      rw [numberOf_cons]
      cases index with
      | zero => cases bit <;> simp [Nat.testBit_zero]
      | succ index =>
          have half : (bit.toNat + 2 * numberOf rest) / 2 = numberOf rest := by
            have := bit.toNat_lt
            omega
          rw [Nat.testBit_succ, half, ih, List.getElem?_cons_succ]

theorem numberOf_lt (bits : List Bool) : numberOf bits < 2 ^ bits.length := by
  induction bits with
  | nil => decide
  | cons bit rest ih =>
      rw [numberOf_cons, List.length_cons, Nat.pow_succ]
      have := bit.toNat_lt
      omega

/-! ## Packing -/

/-- A byte of few bits has false behind them. -/
theorem bitsOfByte_byteOfBits {bits : List Bool} (few : bits.length ≤ 8) :
    bitsOfByte (byteOfBits bits) = bits ++ List.replicate (8 - bits.length) false := by
  have small : numberOf bits < 2 ^ 8 :=
    Nat.lt_of_lt_of_le (numberOf_lt bits) (Nat.pow_le_pow_right (by decide) few)
  have number : (byteOfBits bits).toNat = numberOf bits := by
    rw [byteOfBits, UInt8.toNat_ofNat']
    exact Nat.mod_eq_of_lt small
  apply List.ext_getElem?
  intro index
  by_cases inside : index < 8
  · rw [getElem?_bitsOfByte _ inside, number, testBit_numberOf, List.getElem?_append]
    split
    · rename_i present
      rw [List.getElem?_eq_getElem present]
      rfl
    · rename_i behind
      rw [List.getElem?_eq_none (Nat.not_lt.1 behind), List.getElem?_replicate_of_lt (by omega)]
      rfl
  · rw [List.getElem?_eq_none (by rw [length_bitsOfByte]; omega),
      List.getElem?_eq_none (by simp; omega)]

/-- Packed bits are followed by false to the end of their last byte. -/
theorem flatMap_bitsOfByte_pack (bits : List Bool) :
    (pack bits).flatMap bitsOfByte =
      bits ++ List.replicate (8 * packedSize bits.length - bits.length) false := by
  fun_induction pack bits with
  | case1 => rfl
  | case2 bit rest ih =>
      have size : (bit :: rest.take 7).length ≤ 8 := by
        rw [List.length_cons, List.length_take]
        omega
      rw [List.flatMap_cons, ih, bitsOfByte_byteOfBits size]
      by_cases more : 7 ≤ rest.length
      · have full : (bit :: rest.take 7).length = 8 := by
          rw [List.length_cons, List.length_take]
          omega
        have zeros : 8 * packedSize (rest.drop 7).length - (rest.drop 7).length =
            8 * packedSize (bit :: rest).length - (bit :: rest).length := by
          simp only [packedSize, List.length_drop, List.length_cons]
          omega
        rw [full, zeros, Nat.sub_self, List.replicate_zero, List.append_nil, ← List.append_assoc,
          List.cons_append, List.take_append_drop]
      · have last : rest.length ≤ 7 := by omega
        have zeros : 8 - (bit :: rest).length =
            8 * packedSize (bit :: rest).length - (bit :: rest).length := by
          simp only [packedSize, List.length_cons]
          omega
        rw [List.take_of_length_le last, List.drop_of_length_le last, zeros]
        exact List.append_nil _

/-! ## Cells on the wire -/

/-- Some bytes carry cells, with some padding behind them. -/
def Carries : (area : Area) → List UInt8 → List area.Cell → (padding : List Bool) → Prop
  | .coils, bytes, bits, padding | .discreteInputs, bytes, bits, padding =>
      bytes.flatMap bitsOfByte = bits ++ padding ∧ padding.length < 8
  | .holdingRegisters, bytes, words, padding | .inputRegisters, bytes, words, padding =>
      bytes = bytesOfWords words ∧ padding = []

theorem length_flatMap_bitsOfByte (bytes : List UInt8) :
    (bytes.flatMap bitsOfByte).length = 8 * bytes.length := by
  simp [List.length_flatMap, List.map_const', Nat.mul_comm]

/-- Bits that are carried, with any padding, are those that are unpacked from as many bytes as they
need. -/
theorem carries_bits_iff {bytes : List UInt8} {bits : List Bool} :
    (∃ padding, bytes.flatMap bitsOfByte = bits ++ padding ∧ padding.length < 8) ↔
      bytes.length = packedSize bits.length ∧ unpack bytes bits.length = bits := by
  have total := length_flatMap_bitsOfByte bytes
  constructor
  · rintro ⟨padding, carried, short⟩
    rw [carried, List.length_append] at total
    refine ⟨by rw [packedSize]; omega, ?_⟩
    rw [unpack, carried, List.take_left, Nat.sub_self, List.replicate_zero, List.append_nil]
  · rintro ⟨size, unpacked⟩
    have present : ((bytes.flatMap bitsOfByte).take bits.length).length = bits.length := by
      rw [List.length_take, total, size, packedSize]
      omega
    have front : (bytes.flatMap bitsOfByte).take bits.length = bits := by
      rwa [unpack, present, Nat.sub_self, List.replicate_zero, List.append_nil] at unpacked
    refine ⟨(bytes.flatMap bitsOfByte).drop bits.length, ?_, ?_⟩
    · have parts := List.take_append_drop bits.length (bytes.flatMap bitsOfByte)
      rw [front] at parts
      exact parts.symm
    · rw [List.length_drop, total, size, packedSize]
      omega

theorem bytesOfWords_wordsOfBytes {bytes : List UInt8} {count : Nat}
    (size : bytes.length = 2 * count) : bytesOfWords (wordsOfBytes bytes) = bytes := by
  induction count generalizing bytes with
  | zero =>
      rw [List.length_eq_zero_iff.1 size]
      rfl
  | succ count ih =>
      match bytes, size with
      | high :: low :: rest, size =>
          have even : rest.length = 2 * count := by
            simp only [List.length_cons] at size
            omega
          have later := ih even
          rw [bytesOfWords] at later
          rw [wordsOfBytes, bytesOfWords, List.flatMap_cons, later, wordBytes_wordOfBytes]
          rfl

/-- Cells that are carried, with any padding, are those in the places of as many bytes as they
need. -/
theorem carries_iff {area : Area} {bytes : List UInt8} {cells : List area.Cell} :
    (∃ padding, Carries area bytes cells padding) ↔
      bytes.length = RawIngest.payloadSize area cells.length ∧
        cellsOf bytes cells.length area = cells := by
  cases area with
  | coils | discreteInputs =>
      simp only [Carries, cellsOf, ← unpack_eq_map_bitAt]
      exact carries_bits_iff
  | holdingRegisters | inputRegisters =>
      simp only [Carries, cellsOf, RawIngest.payloadSize, Area.isBit]
      constructor
      · rintro ⟨-, rfl, -⟩
        have size := length_bytesOfWords cells
        exact ⟨size, by rw [← wordsOfBytes_eq_map_wordAt size, wordsOfBytes_bytesOfWords]⟩
      · rintro ⟨size, placed⟩
        rw [← wordsOfBytes_eq_map_wordAt size] at placed
        exact ⟨[], by rw [← placed, bytesOfWords_wordsOfBytes size], rfl⟩

end RegisterGateway.Wire
