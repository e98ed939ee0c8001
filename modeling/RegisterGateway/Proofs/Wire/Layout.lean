import RegisterGateway.Register.Area
import RegisterGateway.Wire.Bits
import RegisterGateway.Wire.Word

/-!
# Places on the wire

Bits and words are packed and unpacked by walking along lists. Here every cell has its place: bit
`i` is bit `i % 8` of byte `i / 8`, the least significant bit being the first, and word `i` is made
of the bytes `2 * i` and `2 * i + 1`, the first one more significant. The main statements are that
the walks come to the same.
-/

namespace RegisterGateway.Wire

/-- The bit at a place of packed bits; where a byte is missing it is false. -/
def bitAt (bytes : List UInt8) (index : Nat) : Bool :=
  (bytes[index / 8]?.getD 0).toNat.testBit (index % 8)

/-- The word at a place of packed words; a missing byte counts as zero. -/
def wordAt (bytes : List UInt8) (index : Nat) : UInt16 :=
  wordOfBytes (bytes[2 * index]?.getD 0) (bytes[2 * index + 1]?.getD 0)

/-- The first cells of an area among packed ones. -/
def cellsOf (bytes : List UInt8) (count : Nat) : (area : Area) → List area.Cell
  | .coils | .discreteInputs => (List.range count).map (bitAt bytes)
  | .holdingRegisters | .inputRegisters => (List.range count).map (wordAt bytes)

@[simp] theorem length_cellsOf (bytes : List UInt8) (count : Nat) (area : Area) :
    (cellsOf bytes count area).length = count := by
  cases area <;> simp [cellsOf]

/-! ## Bits -/

theorem getElem?_bitsOfByte (byte : UInt8) {offset : Nat} (small : offset < 8) :
    (bitsOfByte byte)[offset]? = some (byte.toNat.testBit offset) := by
  simp [bitsOfByte, small]

theorem bitAt_cons_of_lt (byte : UInt8) (bytes : List UInt8) {index : Nat} (small : index < 8) :
    bitAt (byte :: bytes) index = byte.toNat.testBit index := by
  rw [bitAt, Nat.div_eq_of_lt small, Nat.mod_eq_of_lt small]
  rfl

theorem bitAt_cons_add (byte : UInt8) (bytes : List UInt8) (index : Nat) :
    bitAt (byte :: bytes) (index + 8) = bitAt bytes index := by
  rw [bitAt, bitAt, Nat.add_div_right index (by decide), Nat.add_mod_right, List.getElem?_cons_succ]

/-- The bits of some bytes, one byte after the other, stand in their places. -/
theorem getElem?_flatMap_bitsOfByte (bytes : List UInt8) {index : Nat}
    (inside : index < 8 * bytes.length) :
    (bytes.flatMap bitsOfByte)[index]? = some (bitAt bytes index) := by
  induction bytes generalizing index with
  | nil => contradiction
  | cons byte rest ih =>
      rw [List.flatMap_cons]
      by_cases small : index < 8
      · rw [List.getElem?_append_left (by simpa using small), getElem?_bitsOfByte byte small,
          bitAt_cons_of_lt byte rest small]
      · obtain ⟨later, rfl⟩ := Nat.exists_eq_add_of_le' (Nat.not_lt.1 small)
        rw [List.length_cons] at inside
        rw [List.getElem?_append_right (by simp), length_bitsOfByte, Nat.add_sub_cancel,
          bitAt_cons_add, ih (by omega)]

/-- Behind the last byte every bit is false. -/
theorem bitAt_of_length_le {bytes : List UInt8} {index : Nat} (outside : 8 * bytes.length ≤ index) :
    bitAt bytes index = false := by
  rw [bitAt, List.getElem?_eq_none (by omega)]
  exact Nat.zero_testBit _

theorem unpack_eq_map_bitAt (bytes : List UInt8) (count : Nat) :
    unpack bytes count = (List.range count).map (bitAt bytes) := by
  have bitCount : (bytes.flatMap bitsOfByte).length = 8 * bytes.length := by
    simp [List.length_flatMap, List.map_const', Nat.mul_comm]
  apply List.ext_getElem?
  intro index
  by_cases inside : index < count
  · rw [List.getElem?_map, List.getElem?_range inside, Option.map_some]
    simp only [unpack]
    by_cases present : index < 8 * bytes.length
    · rw [List.getElem?_append_left (by rw [List.length_take]; omega),
        List.getElem?_take_of_lt inside, getElem?_flatMap_bitsOfByte bytes present]
    · rw [List.getElem?_append_right (by rw [List.length_take]; omega),
        bitAt_of_length_le (by omega)]
      exact List.getElem?_replicate_of_lt (by rw [List.length_take]; omega)
  · rw [List.getElem?_eq_none (by rw [length_unpack]; omega),
      List.getElem?_eq_none (by rw [List.length_map, List.length_range]; omega)]

/-- Bits that are looked up one by one are the bits that are unpacked. -/
theorem unpack?_eq (bytes : List UInt8) (count : Nat) :
    unpack? bytes count =
      if bytes.length = packedSize count then some (unpack bytes count) else none := by
  by_cases whole : bytes.toArray.size = packedSize count
  · rw [unpack?, dif_pos whole, ← List.size_toArray, if_pos whole, Option.some.injEq,
      unpack_eq_map_bitAt]
    refine List.ext_getElem (by simp) fun index inside _ => ?_
    have present : index / 8 < bytes.length := by
      rw [List.length_ofFn] at inside
      rw [← List.size_toArray, whole, packedSize]
      omega
    simp [bitAt, present]
  · rw [unpack?, dif_neg whole, ← List.size_toArray, if_neg whole]

/-- The byte of eight bits, the first one least significant. -/
def byteOf (bit : Nat → Bool) : UInt8 :=
  UInt8.ofNat ((bit 0).toNat + 2 * (bit 1).toNat + 4 * (bit 2).toNat + 8 * (bit 3).toNat +
    16 * (bit 4).toNat + 32 * (bit 5).toNat + 64 * (bit 6).toNat + 128 * (bit 7).toNat)

/-- The bytes of packed bits; the places of the last byte that no bit fills are false. -/
def bytesOfBits (bits : List Bool) : List UInt8 :=
  (List.range (packedSize bits.length)).map fun place =>
    byteOf fun offset => bits[8 * place + offset]?.getD false

@[simp] theorem length_bytesOfBits (bits : List Bool) :
    (bytesOfBits bits).length = packedSize bits.length := by
  simp [bytesOfBits]

theorem foldr_bits (bits : List Bool) :
    bits.foldr (fun bit rest => bit.toNat + 2 * rest) 0 =
      (bits[0]?.getD false).toNat +
        2 * (bits.drop 1).foldr (fun bit rest => bit.toNat + 2 * rest) 0 := by
  cases bits <;> rfl

theorem byteOfBits_take (bits : List Bool) :
    byteOfBits (bits.take 8) = byteOf fun offset => bits[offset]?.getD false := by
  have nothingLeft : (bits.take 8).drop 8 = [] := by simp
  rw [byteOfBits, byteOf]
  congr 1
  -- One step for each of the eight bits; behind them nothing is left.
  iterate 8 rw [foldr_bits]
  simp only [List.drop_drop, Nat.reduceAdd, nothingLeft, List.foldr_nil, List.getElem?_drop,
    List.getElem?_take, Nat.add_zero, Nat.reduceLT, if_true, Nat.mul_zero]
  omega

theorem pack_eq_bytesOfBits (bits : List Bool) : pack bits = bytesOfBits bits := by
  fun_induction pack bits with
  | case1 => rfl
  | case2 bit rest ih =>
    have size : packedSize (bit :: rest).length = packedSize (rest.drop 7).length + 1 := by
      simp only [packedSize, List.length_cons, List.length_drop]
      omega
    rw [bytesOfBits, size, List.range_succ_eq_map, List.map_cons, List.map_map, ih, bytesOfBits]
    congr 1
    · rw [← List.take_succ_cons, byteOfBits_take]
      simp only [Nat.mul_zero, Nat.zero_add]
    · apply List.map_congr_left
      intro place _
      simp only [Function.comp]
      congr 1
      funext offset
      have later : 8 * (place + 1) + offset = 7 + (8 * place + offset) + 1 := by omega
      rw [List.getElem?_drop, Nat.succ_eq_add_one, later, List.getElem?_cons_succ]

/-! ## Words -/

theorem wordsOfBytes_eq_map_wordAt {bytes : List UInt8} {count : Nat}
    (size : bytes.length = 2 * count) :
    wordsOfBytes bytes = (List.range count).map (wordAt bytes) := by
  induction count generalizing bytes with
  | zero =>
      rw [List.length_eq_zero_iff.1 size]
      rfl
  | succ count ih =>
      obtain ⟨high, low, rest, rfl⟩ : ∃ high low rest, bytes = high :: low :: rest := by
        match bytes, size with
        | high :: low :: rest, _ => exact ⟨high, low, rest, rfl⟩
      rw [wordsOfBytes, List.range_succ_eq_map, List.map_cons, List.map_map,
        ih (by simp only [List.length_cons] at size; omega)]
      rfl

/-- A word does not depend on the bytes behind it. -/
theorem wordAt_take (bytes : List UInt8) {index size : Nat} (inside : 2 * index + 2 ≤ size) :
    wordAt (bytes.take size) index = wordAt bytes index := by
  rw [wordAt, wordAt, List.getElem?_take_of_lt (by omega), List.getElem?_take_of_lt (by omega)]

end RegisterGateway.Wire
