import RegisterGateway.Json.Value

/-!
# The grammar of JSON texts

Which bytes spell a token and which spell a value, as JSON has it: any white space may stand
around tokens, a character of a string may be escaped in several ways, and a number may have a
fraction and an exponent.
-/

namespace RegisterGateway.Json

/-- Bytes spell items if they are put together of the spellings of each. -/
inductive SpellsAll {α : Type} (spells : List UInt8 → α → Prop) : List UInt8 → List α → Prop where
  | nil : SpellsAll spells [] []
  | cons {front back : List UInt8} {item : α} {items : List α} (first : spells front item)
      (others : SpellsAll spells back items) : SpellsAll spells (front ++ back) (item :: items)

/-! ## Strings -/

/-- The letters and marks that are escaped by a backslash alone, with what they stand for. -/
def shortEscapes : List (Char × Char) :=
  [('"', '"'), ('\\', '\\'), ('/', '/'), ('b', '\x08'), ('f', '\x0c'), ('n', '\n'), ('r', '\r'),
    ('t', '\t')]

/-- The escape of a unit of 16 bits, in four hexadecimal digits. -/
inductive SpellsUnit : List UInt8 → Nat → Prop where
  | intro {first second third fourth : UInt8} {code : Nat}
      (digits : hexUnit? first second third fourth = some code) :
      SpellsUnit [0x5C, 0x75, first, second, third, fourth] code

/-- How a character of a text may stand between quotes: for itself, escaped by a letter, or escaped
as a unit or, beyond the first plane, as two surrogates. -/
inductive SpellsChar : List UInt8 → Char → Prop where
  | plain {character : Char} (printable : 0x20 ≤ character.toNat) (noQuote : character ≠ '"')
      (noBackslash : character ≠ '\\') : SpellsChar (String.utf8EncodeChar character) character
  | short {letter character : Char} (escape : (letter, character) ∈ shortEscapes) :
      SpellsChar [0x5C, byteOf letter] character
  | unit {bytes : List UInt8} {character : Char} (spelled : SpellsUnit bytes character.toNat) :
      SpellsChar bytes character
  | surrogates {front back : List UInt8} {high low : Nat} {character : Char}
      (first : SpellsUnit front high) (second : SpellsUnit back low)
      (leading : 0xD800 ≤ high ∧ high < 0xDC00) (trailing : 0xDC00 ≤ low ∧ low < 0xE000)
      (value : character.toNat = 0x10000 + (high - 0xD800) * 0x400 + (low - 0xDC00)) :
      SpellsChar (front ++ back) character

/-- What may stand between quotes, whether or not it belongs to a text: a byte that is neither a
quote nor a backslash nor a control character, or an escape. -/
inductive SpellsPiece : List UInt8 → Piece → Prop where
  | plain {byte : UInt8} (printable : 0x20 ≤ byte) (noQuote : byte ≠ 0x22)
      (noBackslash : byte ≠ 0x5C) : SpellsPiece [byte] (.byte byte)
  | short {letter character : Char} (escape : (letter, character) ∈ shortEscapes) :
      SpellsPiece [0x5C, byteOf letter] (.byte (byteOf character))
  | unit {bytes : List UInt8} {code : Nat} (spelled : SpellsUnit bytes code) :
      SpellsPiece bytes (.unit code)

/-! ## Numbers -/

/-- One or more digits. -/
def IsDigits (bytes : List UInt8) : Prop :=
  bytes ≠ [] ∧ ∀ byte ∈ bytes, isDigitByte byte = true

/-- The fraction of a number, and whether it has one. -/
inductive SpellsFraction : List UInt8 → Bool → Prop where
  | absent : SpellsFraction [] false
  | present {digits : List UInt8} (isDigits : IsDigits digits) :
      SpellsFraction (0x2E :: digits) true

/-- The exponent of a number, and whether it has one. -/
inductive SpellsExponent : List UInt8 → Bool → Prop where
  | absent : SpellsExponent [] false
  | present {mark : UInt8} {sign digits : List UInt8} (isMark : mark ∈ [0x65, 0x45])
      (isSign : sign ∈ [[], [0x2B], [0x2D]]) (isDigits : IsDigits digits) :
      SpellsExponent (mark :: sign ++ digits) true

/-- The sign of a number. -/
def signBytes (negative : Bool) : List UInt8 :=
  if negative then [0x2D] else []

/-- What a number denotes: an integer, unless it has a fraction or an exponent or is a negative
zero. -/
def numberToken (negative : Bool) (whole : Nat) (hasFraction hasExponent : Bool) : Token :=
  if hasFraction || hasExponent || (negative && whole == 0) then .decimal
  else .integer (if negative then -whole else whole)

/-! ## Tokens and values -/

/-- The spellings of a token. A string that spells a text denotes this text; by its form it is a
string also where it spells none. -/
inductive SpellsToken : List UInt8 → Token → Prop where
  | openArray : SpellsToken [0x5B] .openArray
  | closeArray : SpellsToken [0x5D] .closeArray
  | openObject : SpellsToken [0x7B] .openObject
  | closeObject : SpellsToken [0x7D] .closeObject
  | comma : SpellsToken [0x2C] .comma
  | colon : SpellsToken [0x3A] .colon
  | null : SpellsToken (bytesOf "null") .null
  | true : SpellsToken (bytesOf "true") (.bool true)
  | false : SpellsToken (bytesOf "false") (.bool false)
  | number {negative hasFraction hasExponent : Bool} {whole fraction exponent : List UInt8}
      {token : Token} (isDigits : IsDigits whole)
      (noLeadingZero : whole.head? = some 0x30 → whole = [0x30])
      (isFraction : SpellsFraction fraction hasFraction)
      (isExponent : SpellsExponent exponent hasExponent)
      (denotes : numberToken negative (ofDigitBytes whole) hasFraction hasExponent = token) :
      SpellsToken (signBytes negative ++ whole ++ fraction ++ exponent) token
  | text {inner : List UInt8} {characters : List Char}
      (spelled : SpellsAll SpellsChar inner characters) :
      SpellsToken (0x22 :: inner ++ [0x22]) (.text (some (String.ofList characters)))
  | string {inner : List UInt8} {pieces : List Piece}
      (spelled : SpellsAll SpellsPiece inner pieces) :
      SpellsToken (0x22 :: inner ++ [0x22]) (.text (contentOfPieces pieces))

/-- White space between tokens. -/
def IsSpace (bytes : List UInt8) : Prop :=
  ∀ byte ∈ bytes, byte ∈ [0x20, 0x09, 0x0A, 0x0D]

/-- A token with white space in front of it. -/
inductive SpellsSpaced : List UInt8 → Token → Prop where
  | intro {space lexeme : List UInt8} {token : Token} (isSpace : IsSpace space)
      (spelled : SpellsToken lexeme token) : SpellsSpaced (space ++ lexeme) token

/-- The texts of a value: its tokens with white space around them. -/
inductive Spells : List UInt8 → Value → Prop where
  | intro {front space : List UInt8} {value : Value}
      (spelled : SpellsAll SpellsSpaced front value.tokens) (isSpace : IsSpace space) :
      Spells (front ++ space) value

theorem SpellsAll.append {α : Type} {spells : List UInt8 → α → Prop} {front back : List UInt8}
    {first second : List α} (spellsFront : SpellsAll spells front first)
    (spellsBack : SpellsAll spells back second) :
    SpellsAll spells (front ++ back) (first ++ second) := by
  induction spellsFront with
  | nil => exact spellsBack
  | cons item _ ih =>
      rw [List.append_assoc, List.cons_append]
      exact .cons item ih

/-- Items that are each spelled in a fixed way. -/
theorem SpellsAll.flatMap {α β : Type} {spells : List UInt8 → β → Prop} {written : α → List UInt8}
    {item : α → β} (each : ∀ source, spells (written source) (item source)) (sources : List α) :
    SpellsAll spells (sources.flatMap written) (sources.map item) := by
  induction sources with
  | nil => exact .nil
  | cons source rest ih =>
      rw [List.flatMap_cons, List.map_cons]
      exact .cons (each source) ih

end RegisterGateway.Json
