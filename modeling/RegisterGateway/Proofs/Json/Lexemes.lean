import RegisterGateway.Proofs.Json.Grammar

/-!
# Tokens are read as they are spelled

The text of a string, a number, a word: whatever the spelling of a token is, it is read as that
token, and the bytes behind it are left. Only a number needs something behind it that does not go on
with it (`EndsNumber`). Among the spellings of a token is the one in which it is written.
-/

namespace RegisterGateway.Json

/-! ## Texts and their bytes -/

theorem toList_loop (bytes : ByteArray) (index : Nat) (reversed : List UInt8) :
    ByteArray.toList.loop bytes index reversed =
      reversed.reverse ++ bytes.data.toList.drop index := by
  fun_induction ByteArray.toList.loop bytes index reversed with
  | case1 index reversed inside ih =>
      have present : index < bytes.data.toList.length := inside
      rw [ih, List.reverse_cons, List.append_assoc, List.drop_eq_getElem_cons present]
      congr 2
      exact congrArg (· :: _) (getElem!_pos bytes.data index inside)
  | case2 index reversed outside =>
      rw [List.drop_of_length_le (Nat.not_lt.1 outside), List.append_nil]

theorem bytesOf_eq (text : String) : bytesOf text = text.toByteArray.data.toList := by
  rw [bytesOf, ByteArray.toList, toList_loop]
  rfl

theorem bytesOf_ofList (characters : List Char) :
    bytesOf (String.ofList characters) = characters.flatMap String.utf8EncodeChar := by
  rw [bytesOf_eq, String.toByteArray_ofList, List.utf8Encode]
  simp

theorem utf8EncodeChar_of_ascii {code : Nat} (small : code < 0x80) :
    String.utf8EncodeChar (Char.ofNat code) = [UInt8.ofNat code] := by
  have value : (Char.ofNat code).val.toNat = code := by
    have valid : code.isValidChar := .inl (by omega)
    rw [Char.ofNat, dif_pos valid]
    rfl
  rw [String.utf8EncodeChar.eq_1, value, if_pos (by omega)]

theorem textOf?_bytesOf (text : String) : textOf? (bytesOf text) = some text := by
  rw [textOf?, bytesOf_eq, Array.toArray_toList, String.fromUTF8?, dif_pos text.isValidUTF8]
  rfl

/-! ## Strings -/

section Strings

variable {inner : List UInt8} {pieces : List Piece}

/-- A piece is taken off the front of what stands between quotes. -/
theorem pieces?_of_spellsPiece {bytes : List UInt8} {piece : Piece}
    (spelled : SpellsPiece bytes piece) (rest : List UInt8) (reversed : List Piece) :
    pieces? (bytes ++ rest) reversed = pieces? rest (piece :: reversed) := by
  cases spelled with
  | @plain byte printable noQuote noBackslash =>
      have noControl : ¬ byte < 0x20 := UInt8.not_lt.2 printable
      rw [List.singleton_append, pieces?]
      · simp [noControl, noBackslash]
      · exact noQuote
      · exact fun _ _ _ _ _ same _ => noBackslash same
      · exact fun _ _ same _ => noBackslash same
  | short escape =>
      simp only [shortEscapes, List.mem_cons, List.not_mem_nil, or_false, Prod.mk.injEq] at escape
      rcases escape with ⟨rfl, rfl⟩ | ⟨rfl, rfl⟩ | ⟨rfl, rfl⟩ | ⟨rfl, rfl⟩ | ⟨rfl, rfl⟩ |
        ⟨rfl, rfl⟩ | ⟨rfl, rfl⟩ | ⟨rfl, rfl⟩ <;> rfl
  | unit spelled =>
      obtain ⟨digits⟩ := spelled
      simp only [List.cons_append, List.nil_append, pieces?, digits]

theorem pieces?_of_spellsAll (spelled : SpellsAll SpellsPiece inner pieces) (rest : List UInt8)
    (reversed : List Piece) :
    pieces? (inner ++ 0x22 :: rest) reversed = some (pieces.reverse ++ reversed, rest) := by
  induction spelled generalizing reversed with
  | nil => rfl
  | cons first others ih =>
      rw [List.append_assoc, pieces?_of_spellsPiece first, ih, List.reverse_cons,
        List.append_assoc, List.singleton_append]

/-- Pieces denote some bytes, whatever stands behind and in front of them. -/
def Denote (pieces : List Piece) (bytes : List UInt8) : Prop :=
  ∀ later reversed,
    bytesOfPieces? (pieces ++ later) reversed = bytesOfPieces? later (bytes.reverse ++ reversed)

theorem denote_append {first second : List Piece} {front back : List UInt8}
    (denoteFront : Denote first front) (denoteBack : Denote second back) :
    Denote (first ++ second) (front ++ back) := by
  intro later reversed
  rw [List.append_assoc, denoteFront, denoteBack, List.reverse_append, List.append_assoc]

theorem denote_bytes (bytes : List UInt8) : Denote (bytes.map .byte) bytes := by
  intro later reversed
  induction bytes generalizing reversed with
  | nil => rfl
  | cons byte rest ih =>
      rw [List.map_cons, List.cons_append, bytesOfPieces?, ih, List.reverse_cons,
        List.append_assoc, List.singleton_append]

/-- A unit that is no surrogate denotes its character. -/
theorem denote_unit (character : Char) :
    Denote [.unit character.toNat] (String.utf8EncodeChar character) := by
  intro later reversed
  have valid : character.toNat < 0xD800 ∨ 0xDFFF < character.toNat ∧ character.toNat < 0x110000 :=
    character.valid
  rw [List.singleton_append, bytesOfPieces?.eq_def]
  simp only
  rw [if_neg (by omega), if_neg (by omega), Char.ofNat_toNat]

theorem denote_surrogates {high low : Nat} {character : Char}
    (leading : 0xD800 ≤ high ∧ high < 0xDC00) (trailing : 0xDC00 ≤ low ∧ low < 0xE000)
    (value : character.toNat = 0x10000 + (high - 0xD800) * 0x400 + (low - 0xDC00)) :
    Denote [.unit high, .unit low] (String.utf8EncodeChar character) := by
  intro later reversed
  rw [List.cons_append, List.singleton_append, bytesOfPieces?.eq_def]
  simp only
  rw [if_pos leading, if_pos trailing, ← value, Char.ofNat_toNat]

/-- Bytes that are neither quotes nor backslashes nor control characters stand for themselves. -/
theorem spellsAll_bytes {bytes : List UInt8}
    (plain : ∀ byte ∈ bytes, 0x20 ≤ byte ∧ byte ≠ 0x22 ∧ byte ≠ 0x5C) :
    SpellsAll SpellsPiece bytes (bytes.map .byte) := by
  induction bytes with
  | nil => exact .nil
  | cons byte rest ih =>
      obtain ⟨⟨printable, noQuote, noBackslash⟩, others⟩ := List.forall_mem_cons.1 plain
      exact .cons (.plain printable noQuote noBackslash) (ih others)

theorem le_of_mem_utf8EncodeChar {character : Char} (large : 0x80 ≤ character.toNat) {byte : UInt8}
    (member : byte ∈ String.utf8EncodeChar character) : 0x80 ≤ byte := by
  have value : character.val.toNat = character.toNat := rfl
  have least (rest : Nat) (more : 128 ≤ rest) (small : rest < 256) : 0x80 ≤ UInt8.ofNat rest := by
    rw [UInt8.le_iff_toNat_le, UInt8.toNat_ofNat_of_lt' small]
    exact more
  rw [String.utf8EncodeChar.eq_1, value, if_neg (by omega)] at member
  split at member
  · simp only [List.mem_cons, List.not_mem_nil, or_false] at member
    rcases member with rfl | rfl <;> exact least _ (by omega) (by omega)
  · split at member
    · simp only [List.mem_cons, List.not_mem_nil, or_false] at member
      rcases member with rfl | rfl | rfl <;> exact least _ (by omega) (by omega)
    · simp only [List.mem_cons, List.not_mem_nil, or_false] at member
      rcases member with rfl | rfl | rfl | rfl <;> exact least _ (by omega) (by omega)

/-- A character that is no quote, backslash or control character stands for itself. -/
theorem spellsAll_plain {character : Char} (printable : 0x20 ≤ character.toNat)
    (noQuote : character ≠ '"') (noBackslash : character ≠ '\\') :
    SpellsAll SpellsPiece (String.utf8EncodeChar character)
      ((String.utf8EncodeChar character).map .byte) := by
  refine spellsAll_bytes fun byte member => ?_
  by_cases ascii : character.toNat < 0x80
  · rw [← Char.ofNat_toNat character, utf8EncodeChar_of_ascii ascii, List.mem_singleton] at member
    have code : byte.toNat = character.toNat := by
      rw [member, UInt8.toNat_ofNat_of_lt' (show character.toNat < 256 by omega)]
    refine ⟨UInt8.le_iff_toNat_le.2 (by rwa [code]), ?_, ?_⟩
    · rintro rfl
      exact noQuote (Char.toNat_inj.1 code.symm)
    · rintro rfl
      exact noBackslash (Char.toNat_inj.1 code.symm)
  · have large := UInt8.le_iff_toNat_le.1 (le_of_mem_utf8EncodeChar (Nat.not_lt.1 ascii) member)
    simp only [UInt8.le_iff_toNat_le, ne_eq, ← UInt8.toNat_inj, UInt8.reduceToNat] at large ⊢
    omega

/-- A character is spelled by pieces that denote it. -/
theorem exists_pieces_of_spellsChar {bytes : List UInt8} {character : Char}
    (spelled : SpellsChar bytes character) :
    ∃ pieces, SpellsAll SpellsPiece bytes pieces ∧
      Denote pieces (String.utf8EncodeChar character) := by
  cases spelled with
  | plain printable noQuote noBackslash =>
      exact ⟨_, spellsAll_plain printable noQuote noBackslash, denote_bytes _⟩
  | @short letter character escape =>
      have encoded : String.utf8EncodeChar character = [byteOf character] := by
        simp only [shortEscapes, List.mem_cons, List.not_mem_nil, or_false, Prod.mk.injEq] at escape
        rcases escape with ⟨rfl, rfl⟩ | ⟨rfl, rfl⟩ | ⟨rfl, rfl⟩ | ⟨rfl, rfl⟩ | ⟨rfl, rfl⟩ |
          ⟨rfl, rfl⟩ | ⟨rfl, rfl⟩ | ⟨rfl, rfl⟩ <;> rfl
      rw [encoded]
      exact ⟨[.byte (byteOf character)], .cons (SpellsPiece.short escape) .nil, denote_bytes [_]⟩
  | unit spelled =>
      rw [← List.append_nil bytes]
      exact ⟨_, .cons (.unit spelled) .nil, denote_unit character⟩
  | @surrogates front back high low character first second leading trailing value =>
      refine ⟨[.unit high, .unit low], ?_, denote_surrogates leading trailing value⟩
      rw [← List.append_nil back]
      exact .cons (.unit first) (.cons (.unit second) .nil)

/-- A text is spelled by pieces that denote it. -/
theorem exists_pieces_of_spellsChars {characters : List Char}
    (spelled : SpellsAll SpellsChar inner characters) :
    ∃ pieces, SpellsAll SpellsPiece inner pieces ∧
      contentOfPieces pieces = some (String.ofList characters) := by
  have found : ∃ pieces, SpellsAll SpellsPiece inner pieces ∧
      Denote pieces (characters.flatMap String.utf8EncodeChar) := by
    induction spelled with
    | nil => exact ⟨[], .nil, fun _ _ => rfl⟩
    | cons first others ih =>
        obtain ⟨firstPieces, firstSpelled, firstDenote⟩ := exists_pieces_of_spellsChar first
        obtain ⟨morePieces, moreSpelled, moreDenote⟩ := ih
        exact ⟨_, firstSpelled.append moreSpelled, denote_append firstDenote moreDenote⟩
  obtain ⟨pieces, spelled, denote⟩ := found
  have bytes := denote [] []
  rw [List.append_nil, List.append_nil, bytesOfPieces?, List.reverse_reverse] at bytes
  refine ⟨pieces, spelled, ?_⟩
  rw [contentOfPieces, bytes, Option.bind_some, ← bytesOf_ofList, textOf?_bytesOf]

end Strings

/-! ## Written strings -/

/-- The bytes that are written as a backslash and a letter or a mark. -/
def shortlyEscaped : List UInt8 :=
  [0x22, 0x5C, 0x08, 0x0C, 0x0A, 0x0D, 0x09]

/-- What a byte that is written between quotes is read as. -/
def pieceOf (byte : UInt8) : Piece :=
  if byte < 0x20 ∧ byte ∉ shortlyEscaped then .unit byte.toNat else .byte byte

theorem hexDigit?_hexByte : ∀ value < 16, hexDigit? (hexByte value) = some value := by
  decide

/-- Two digits behind two zeros denote a byte. -/
theorem hexUnit?_hexByte (byte : UInt8) :
    hexUnit? 0x30 0x30 (hexByte (byte.toNat / 16)) (hexByte (byte.toNat % 16)) =
      some byte.toNat := by
  have := byte.toNat_lt
  have zero : hexDigit? 0x30 = some 0 := by decide
  simp only [hexUnit?, zero, hexDigit?_hexByte (byte.toNat % 16) (by omega),
    hexDigit?_hexByte (byte.toNat / 16) (by omega), Option.bind_eq_bind, Option.bind_some,
    Option.pure_def, Option.some.injEq]
  omega

/-- A byte is written as a piece. -/
theorem spellsPiece_writeByte (byte : UInt8) : SpellsPiece (writeByte byte) (pieceOf byte) := by
  by_cases short : byte ∈ shortlyEscaped
  · have written : ∃ letter character, (letter, character) ∈ shortEscapes ∧
        writeByte byte = [0x5C, byteOf letter] ∧ pieceOf byte = .byte (byteOf character) := by
      simp only [shortlyEscaped, List.mem_cons, List.not_mem_nil, or_false] at short
      rcases short with rfl | rfl | rfl | rfl | rfl | rfl | rfl
      · exact ⟨'"', '"', by decide, by simp only [writeByte, bytesOf_eq]; rfl, rfl⟩
      · exact ⟨'\\', '\\', by decide, by simp only [writeByte, bytesOf_eq]; rfl, rfl⟩
      · exact ⟨'b', '\x08', by decide, by simp only [writeByte, bytesOf_eq]; rfl, rfl⟩
      · exact ⟨'f', '\x0c', by decide, by simp only [writeByte, bytesOf_eq]; rfl, rfl⟩
      · exact ⟨'n', '\n', by decide, by simp only [writeByte, bytesOf_eq]; rfl, rfl⟩
      · exact ⟨'r', '\r', by decide, by simp only [writeByte, bytesOf_eq]; rfl, rfl⟩
      · exact ⟨'t', '\t', by decide, by simp only [writeByte, bytesOf_eq]; rfl, rfl⟩
    obtain ⟨letter, character, escape, written, piece⟩ := written
    rw [written, piece]
    exact .short escape
  · have others := short
    simp only [shortlyEscaped, List.mem_cons, List.not_mem_nil, or_false, not_or] at others
    obtain ⟨quote, backslash, backspace, formFeed, lineFeed, carriageReturn, tab⟩ := others
    by_cases control : byte < 0x20
    · have written : writeByte byte =
          [0x5C, 0x75, 0x30, 0x30, hexByte (byte.toNat / 16), hexByte (byte.toNat % 16)] := by
        simp only [writeByte, quote, backslash, backspace, formFeed, lineFeed, carriageReturn, tab,
          control, beq_iff_eq, if_false, if_true, bytesOf_eq]
        rfl
      rw [written, pieceOf, if_pos ⟨control, short⟩]
      exact .unit ⟨hexUnit?_hexByte byte⟩
    · have written : writeByte byte = [byte] := by
        simp only [writeByte, quote, backslash, backspace, formFeed, lineFeed, carriageReturn, tab,
          control, beq_iff_eq, if_false]
      rw [written, pieceOf, if_neg fun escaped => control escaped.1]
      exact .plain (UInt8.not_lt.1 control) quote backslash

theorem bytesOfPieces?_map_pieceOf (bytes reversed : List UInt8) :
    bytesOfPieces? (bytes.map pieceOf) reversed = some (reversed.reverse ++ bytes) := by
  induction bytes generalizing reversed with
  | nil => simp [bytesOfPieces?]
  | cons byte rest ih =>
      rw [List.map_cons, pieceOf]
      split
      · rename_i control
        have small : byte.toNat < 32 := control.1
        rw [bytesOfPieces?.eq_def]
        simp only
        rw [if_neg (by omega), if_neg (by omega), utf8EncodeChar_of_ascii (by omega), ih]
        simp
      · rw [bytesOfPieces?, ih]
        simp

theorem contentOfPieces_map_pieceOf (text : String) :
    contentOfPieces ((bytesOf text).map pieceOf) = some text := by
  rw [contentOfPieces, bytesOfPieces?_map_pieceOf, Option.bind_some, List.reverse_nil,
    List.nil_append, textOf?_bytesOf]

/-! ## Decimal forms -/

theorem bytesOf_decimal (value : Nat) :
    bytesOf (Text.decimal value) =
      if value < 10 then [UInt8.ofNat (48 + value)]
      else bytesOf (Text.decimal (value / 10)) ++ [UInt8.ofNat (48 + value % 10)] := by
  simp only [Text.decimal, bytesOf_ofList]
  rw [Text.digits]
  split
  · rw [List.flatMap_singleton, Text.digit, utf8EncodeChar_of_ascii (by omega)]
  · rw [List.flatMap_append, List.flatMap_singleton, Text.digit,
      utf8EncodeChar_of_ascii (by omega)]

/-- The bytes of the ten digits. -/
theorem isDigitByte_iff {byte : UInt8} :
    isDigitByte byte = true ↔ ∃ value, value < 10 ∧ byte = UInt8.ofNat (48 + value) := by
  simp only [isDigitByte, Bool.and_eq_true, decide_eq_true_eq, UInt8.le_iff_toNat_le]
  constructor
  · rintro ⟨least, most⟩
    simp only [UInt8.reduceToNat] at least most
    refine ⟨byte.toNat - 48, by omega, UInt8.toNat_inj.1 ?_⟩
    rw [UInt8.toNat_ofNat']
    omega
  · rintro ⟨value, small, rfl⟩
    simp only [UInt8.toNat_ofNat', UInt8.reduceToNat]
    omega

theorem isDigitByte_of_mem_decimal (value : Nat) :
    ∀ byte ∈ bytesOf (Text.decimal value), isDigitByte byte = true := by
  induction value using Nat.strongRecOn with
  | ind value ih =>
      intro byte member
      rw [bytesOf_decimal] at member
      split at member
      · rename_i small
        exact isDigitByte_iff.2 ⟨value, small, List.mem_singleton.1 member⟩
      · rcases List.mem_append.1 member with early | last
        · exact ih (value / 10) (by omega) byte early
        · exact isDigitByte_iff.2 ⟨value % 10, by omega, List.mem_singleton.1 last⟩

theorem ofDigitBytes_append (digits : List UInt8) {value : Nat} (small : value < 10) :
    ofDigitBytes (digits ++ [UInt8.ofNat (48 + value)]) = 10 * ofDigitBytes digits + value := by
  have byte : (UInt8.ofNat (48 + value)).toNat = 48 + value := by
    rw [UInt8.toNat_ofNat']
    omega
  rw [ofDigitBytes, List.foldl_append, List.foldl_cons, List.foldl_nil, byte,
    Nat.add_sub_cancel_left, ofDigitBytes]

theorem ofDigitBytes_decimal (value : Nat) :
    ofDigitBytes (bytesOf (Text.decimal value)) = value := by
  induction value using Nat.strongRecOn with
  | ind value ih =>
      rw [bytesOf_decimal]
      split
      · rename_i small
        exact (ofDigitBytes_append [] small).trans (Nat.zero_add value)
      · rw [ofDigitBytes_append _ (Nat.mod_lt value (by decide)), ih (value / 10) (by omega)]
        omega

/-- A decimal form begins with a digit, and only that of zero begins with a zero. -/
theorem exists_first_digit (value : Nat) :
    ∃ first later, bytesOf (Text.decimal value) = first :: later ∧ isDigitByte first = true ∧
      (first = 0x30 → value = 0 ∧ later = []) := by
  induction value using Nat.strongRecOn with
  | ind value ih =>
      rw [bytesOf_decimal]
      split
      · rename_i small
        refine ⟨_, _, rfl, isDigitByte_iff.2 ⟨value, small, rfl⟩, fun zero => ⟨?_, rfl⟩⟩
        have same := congrArg UInt8.toNat zero
        simp only [UInt8.toNat_ofNat', UInt8.reduceToNat] at same
        omega
      · obtain ⟨first, later, parts, digit, nonzero⟩ := ih (value / 10) (by omega)
        refine ⟨first, _, by rw [parts, List.cons_append], digit, fun zero => ?_⟩
        have := (nonzero zero).1
        omega

/-! ## Numbers -/

/-- What may stand behind a number: nothing that would go on with it. -/
def EndsNumber (rest : List UInt8) : Prop :=
  ∀ byte ∈ rest.head?, isDigitByte byte = false ∧ byte ≠ 0x2E ∧ byte ≠ 0x65 ∧ byte ≠ 0x45

/-- What may stand behind digits: nothing, or a byte that is no digit. -/
def EndsDigits (rest : List UInt8) : Prop :=
  ∀ byte ∈ rest.head?, isDigitByte byte = false

theorem EndsNumber.endsDigits {rest : List UInt8} (ends : EndsNumber rest) : EndsDigits rest :=
  fun byte ahead => (ends byte ahead).1

section Numbers

variable {rest : List UInt8}

theorem splitDigits_append {digits : List UInt8} (all : ∀ byte ∈ digits, isDigitByte byte = true)
    (ends : EndsDigits rest) : splitDigits (digits ++ rest) = (digits, rest) := by
  rw [splitDigits, List.takeWhile_append_of_pos all, List.dropWhile_append_of_pos all]
  cases rest with
  | nil => simp
  | cons byte later => simp [ends byte rfl]

theorem wholePart?_append {whole : List UInt8} (isDigits : IsDigits whole)
    (noLeadingZero : whole.head? = some 0x30 → whole = [0x30]) (ends : EndsDigits rest) :
    wholePart? (whole ++ rest) = some (ofDigitBytes whole, rest) := by
  have digits := splitDigits_append isDigits.2 ends
  cases whole with
  | nil => exact absurd rfl isDigits.1
  | cons first later =>
      rw [List.cons_append] at digits ⊢
      by_cases zero : first = 0x30
      · subst zero
        obtain ⟨-, rfl⟩ := List.cons.inj (noLeadingZero rfl)
        rfl
      · have digit := isDigits.2 first (List.mem_cons_self ..)
        simp only [wholePart?, beq_iff_eq, zero, if_false, digit, if_true, digits]

theorem fraction?_append {fraction : List UInt8} {hasFraction : Bool}
    (isFraction : SpellsFraction fraction hasFraction) (ends : EndsDigits rest)
    (noPoint : ∀ byte ∈ rest.head?, byte ≠ 0x2E) :
    fraction? (fraction ++ rest) = some (hasFraction, rest) := by
  cases isFraction with
  | absent =>
      rw [List.nil_append]
      unfold fraction?
      split
      · exact absurd rfl (noPoint _ rfl)
      · rfl
  | present isDigits =>
      rw [List.cons_append, fraction?, splitDigits_append isDigits.2 ends]
      simp [isDigits.1]

theorem exponent?_append {exponent : List UInt8} {hasExponent : Bool}
    (isExponent : SpellsExponent exponent hasExponent) (ends : EndsNumber rest) :
    exponent? (exponent ++ rest) = some (hasExponent, rest) := by
  cases isExponent with
  | absent =>
      rw [List.nil_append]
      unfold exponent?
      split
      · exact absurd rfl (ends _ rfl).2.2.1
      · exact absurd rfl (ends _ rfl).2.2.2
      · rfl
  | @present mark sign digits isMark isSign isDigits =>
      have split := splitDigits_append isDigits.2 ends.endsDigits
      obtain ⟨first, later, rfl⟩ := List.exists_cons_of_ne_nil isDigits.1
      have digit := isDigits.2 first (List.mem_cons_self ..)
      have noPlus : first ≠ 0x2B := by
        rintro rfl
        contradiction
      have noMinus : first ≠ 0x2D := by
        rintro rfl
        contradiction
      rw [List.cons_append] at split
      simp only [List.mem_cons, List.not_mem_nil, or_false] at isMark isSign
      rcases isMark with rfl | rfl <;> rcases isSign with rfl | rfl | rfl <;>
        simp [exponent?, noPlus, noMinus, split]

/-- An exponent that may be missing and the bytes behind it begin with a mark or as these bytes. -/
theorem forall_head?_exponent {property : UInt8 → Prop} {exponent : List UInt8}
    {hasExponent : Bool} (isExponent : SpellsExponent exponent hasExponent)
    (marks : ∀ mark ∈ [0x65, 0x45], property mark) (ends : ∀ byte ∈ rest.head?, property byte) :
    ∀ byte ∈ (exponent ++ rest).head?, property byte := by
  cases isExponent with
  | absent => exact ends
  | present isMark =>
      rintro byte ⟨⟩
      exact marks _ isMark

/-- In front of an exponent no digits go on. -/
theorem endsDigits_exponent {exponent : List UInt8} {hasExponent : Bool}
    (isExponent : SpellsExponent exponent hasExponent) (ends : EndsDigits rest) :
    EndsDigits (exponent ++ rest) :=
  forall_head?_exponent isExponent (by simp [isDigitByte]) ends

/-- Nor do they in front of a fraction. -/
theorem endsDigits_fraction {fraction exponent : List UInt8} {hasFraction hasExponent : Bool}
    (isFraction : SpellsFraction fraction hasFraction)
    (isExponent : SpellsExponent exponent hasExponent) (ends : EndsDigits rest) :
    EndsDigits (fraction ++ (exponent ++ rest)) := by
  cases isFraction with
  | present =>
      rintro byte ⟨⟩
      rfl
  | absent =>
      rw [List.nil_append]
      exact endsDigits_exponent isExponent ends

theorem number?_append {negative hasFraction hasExponent : Bool}
    {whole fraction exponent : List UInt8} (isDigits : IsDigits whole)
    (noLeadingZero : whole.head? = some 0x30 → whole = [0x30])
    (isFraction : SpellsFraction fraction hasFraction)
    (isExponent : SpellsExponent exponent hasExponent) (ends : EndsNumber rest) :
    number? (signBytes negative ++ whole ++ fraction ++ exponent ++ rest) =
      some (numberToken negative (ofDigitBytes whole) hasFraction hasExponent, rest) := by
  have readWhole := wholePart?_append isDigits noLeadingZero
    (endsDigits_fraction isFraction isExponent ends.endsDigits)
  have noPoint : ∀ byte ∈ (exponent ++ rest).head?, byte ≠ 0x2E :=
    forall_head?_exponent isExponent (by simp) fun byte ahead => (ends byte ahead).2.1
  have readFraction := fraction?_append isFraction
    (endsDigits_exponent isExponent ends.endsDigits) noPoint
  have readExponent := exponent?_append isExponent ends
  unfold number?
  split
  rename_i minus unsigned signed
  have parts : (negative, whole ++ (fraction ++ (exponent ++ rest))) = (minus, unsigned) := by
    rw [← signed]
    simp only [List.append_assoc]
    cases negative with
    | true => rfl
    | false =>
        obtain ⟨first, later, rfl⟩ := List.exists_cons_of_ne_nil isDigits.1
        split
        · rename_i same
          obtain ⟨rfl, -⟩ := List.cons.inj same
          exact absurd (isDigits.2 0x2D (List.mem_cons_self ..)) (by decide)
        · rfl
  cases parts
  simp only [readWhole, readFraction, readExponent, Option.bind_eq_bind, Option.bind_some]
  rw [numberToken]
  cases hasFraction <;> cases hasExponent <;> cases negative <;> simp

end Numbers

/-! ## Tokens -/

/-- Whether a token is a number. -/
def Token.isNumber : Token → Bool
  | .integer _ | .decimal => true
  | _ => false

theorem isNumber_numberToken (negative : Bool) (whole : Nat) (hasFraction hasExponent : Bool) :
    (numberToken negative whole hasFraction hasExponent).isNumber = true := by
  rw [numberToken]
  split <;> rfl

/-- Some bytes are read as a token, in front of some others. -/
def ReadAs (lexeme : List UInt8) (token : Token) (rest : List UInt8) : Prop :=
  ∃ first later, lexeme = first :: later ∧ isBlankByte first = false ∧
    token? first (later ++ rest) = some (token, rest)

theorem word?_append (word : String) (rest : List UInt8) :
    word? word (bytesOf word ++ rest) = some rest := by
  simp [word?]

/-- A token that is spelled as a word, of which the first letter tells the others. -/
theorem readAs_word {lexeme : List UInt8} {token : Token} {first : UInt8} {others : String}
    (spelled : lexeme = first :: bytesOf others) (solid : isBlankByte first = false)
    (begins : ∀ bytes, token? first bytes = (word? others bytes).map fun rest => (token, rest))
    (rest : List UInt8) : ReadAs lexeme token rest :=
  ⟨first, _, spelled, solid, by rw [begins, word?_append, Option.map_some]⟩

/-- A digit begins a number. -/
theorem token?_of_isDigitByte {byte : UInt8} (digit : isDigitByte byte = true)
    (rest : List UInt8) :
    isBlankByte byte = false ∧ token? byte rest = number? (byte :: rest) := by
  obtain ⟨value, small, rfl⟩ := isDigitByte_iff.1 digit
  match value, small with
  | 0, _ | 1, _ | 2, _ | 3, _ | 4, _ | 5, _ | 6, _ | 7, _ | 8, _ | 9, _ => exact ⟨rfl, rfl⟩

theorem readAs_number {negative hasFraction hasExponent : Bool}
    {whole fraction exponent : List UInt8} (isDigits : IsDigits whole)
    (noLeadingZero : whole.head? = some 0x30 → whole = [0x30])
    (isFraction : SpellsFraction fraction hasFraction)
    (isExponent : SpellsExponent exponent hasExponent) {rest : List UInt8}
    (ends : EndsNumber rest) :
    ReadAs (signBytes negative ++ whole ++ fraction ++ exponent)
      (numberToken negative (ofDigitBytes whole) hasFraction hasExponent) rest := by
  have read := @number?_append rest negative _ _ _ _ _ isDigits noLeadingZero isFraction
    isExponent ends
  cases negative with
  | true => exact ⟨0x2D, _, rfl, rfl, read⟩
  | false =>
      obtain ⟨first, later, rfl⟩ := List.exists_cons_of_ne_nil isDigits.1
      have begins := token?_of_isDigitByte (isDigits.2 first (List.mem_cons_self ..))
      exact ⟨first, _, rfl, (begins []).1, (begins _).2.trans read⟩

theorem readAs_string {inner : List UInt8} {pieces : List Piece}
    (spelled : SpellsAll SpellsPiece inner pieces) (rest : List UInt8) :
    ReadAs (0x22 :: inner ++ [0x22]) (.text (contentOfPieces pieces)) rest := by
  refine ⟨0x22, inner ++ [0x22], rfl, rfl, ?_⟩
  show (pieces? _ []).map _ = _
  rw [List.append_assoc, List.singleton_append, pieces?_of_spellsAll spelled]
  simp

/-- Every token is read as it is spelled, a number where nothing goes on with it. -/
theorem readAs_of_spellsToken {lexeme : List UInt8} {token : Token}
    (spelled : SpellsToken lexeme token) {rest : List UInt8}
    (ends : token.isNumber = true → EndsNumber rest) : ReadAs lexeme token rest := by
  cases spelled with
  | openArray | closeArray | openObject | closeObject | comma | colon =>
      exact ⟨_, [], rfl, rfl, rfl⟩
  | null =>
      refine readAs_word (?_ : _ = 0x6E :: bytesOf "ull") rfl (fun _ => rfl) rest
      rw [bytesOf_eq, bytesOf_eq]
      rfl
  | true =>
      refine readAs_word (?_ : _ = 0x74 :: bytesOf "rue") rfl (fun _ => rfl) rest
      rw [bytesOf_eq, bytesOf_eq]
      rfl
  | false =>
      refine readAs_word (?_ : _ = 0x66 :: bytesOf "alse") rfl (fun _ => rfl) rest
      rw [bytesOf_eq, bytesOf_eq]
      rfl
  | number isDigits noLeadingZero isFraction isExponent denotes =>
      subst denotes
      exact readAs_number isDigits noLeadingZero isFraction isExponent
        (ends (isNumber_numberToken ..))
  | text spelled =>
      obtain ⟨pieces, spelled, content⟩ := exists_pieces_of_spellsChars spelled
      rw [← content]
      exact readAs_string spelled rest
  | string spelled => exact readAs_string spelled rest

/-! ## Written tokens -/

theorem isDigits_decimal (value : Nat) : IsDigits (bytesOf (Text.decimal value)) := by
  refine ⟨?_, isDigitByte_of_mem_decimal value⟩
  obtain ⟨first, later, parts, -⟩ := exists_first_digit value
  rw [parts]
  exact List.cons_ne_nil first later

theorem noLeadingZero_decimal (value : Nat)
    (zero : (bytesOf (Text.decimal value)).head? = some 0x30) :
    bytesOf (Text.decimal value) = [0x30] := by
  obtain ⟨first, later, parts, -, nonzero⟩ := exists_first_digit value
  rw [parts] at zero ⊢
  obtain rfl := Option.some.inj zero
  rw [(nonzero rfl).2]

theorem spellsToken_decimal (negative : Bool) (value : Nat) :
    SpellsToken (signBytes negative ++ bytesOf (Text.decimal value))
      (numberToken negative value false false) := by
  have spelled := @SpellsToken.number negative _ _ _ _ _ _
    (isDigits_decimal value) (noLeadingZero_decimal value) .absent .absent rfl
  rwa [ofDigitBytes_decimal, List.append_nil, List.append_nil] at spelled

theorem spellsToken_write_integer (value : Int) :
    SpellsToken (Token.integer value).write (.integer value) := by
  cases value with
  | ofNat value => exact spellsToken_decimal false value
  | negSucc value =>
      rw [Token.write, bytesOf_eq "-"]
      exact spellsToken_decimal true (value + 1)

theorem spellsToken_write_text (content : Option String) :
    SpellsToken (Token.text content).write (.text content) := by
  have quote : bytesOf "\"" = [0x22] := by
    rw [bytesOf_eq]
    rfl
  cases content with
  | some content =>
      rw [Token.write, quote, ← contentOfPieces_map_pieceOf]
      exact .string (SpellsAll.flatMap spellsPiece_writeByte (bytesOf content))
  | none =>
      rw [Token.write, bytesOf_eq]
      have surrogate : SpellsUnit [0x5C, 0x75, 0x64, 0x38, 0x30, 0x30] 0xD800 := ⟨by decide⟩
      exact .string (.cons (.unit surrogate) .nil)

/-- A token is spelled as it is written. -/
theorem spellsToken_write (token : Token) : SpellsToken token.write token := by
  cases token with
  | openArray | closeArray | openObject | closeObject | comma | colon =>
      rw [Token.write, bytesOf_eq]
      constructor
  | null => exact .null
  | bool value =>
      cases value with
      | true => exact .true
      | false => exact .false
  | integer value => exact spellsToken_write_integer value
  | decimal =>
      have zero : IsDigits [0x30] := ⟨List.cons_ne_nil _ _, by simp [isDigitByte]⟩
      rw [Token.write, bytesOf_eq]
      exact @SpellsToken.number false _ _ _ _ _ _ zero (fun _ => rfl) (.present zero) .absent rfl
  | text content => exact spellsToken_write_text content

end RegisterGateway.Json
