import RegisterGateway.Text.Hexadecimal

/-!
# JSON tokens

The lexemes of JSON over the bytes of a text. A string token keeps its content if the
bytes and escapes between the quotes denote a Unicode text; a lone surrogate or a byte that
is not UTF-8 leaves it without content. A number token keeps its value if the literal has
neither fraction nor exponent and is not a negative zero.
-/

namespace RegisterGateway.Json

/-- A lexeme of JSON. -/
inductive Token where
  | openArray
  | closeArray
  | openObject
  | closeObject
  | comma
  | colon
  | null
  | bool (value : Bool)
  | integer (value : Int)
  | decimal
  | text (content : Option String)
  deriving DecidableEq, Repr

/-- The byte of an ASCII character. -/
def byteOf (character : Char) : UInt8 :=
  UInt8.ofNat character.toNat

/-- The bytes of a text in UTF-8. -/
def bytesOf (text : String) : List UInt8 :=
  text.toUTF8.toList

/-- The text that some bytes denote in UTF-8, if they do. -/
def textOf? (bytes : List UInt8) : Option String :=
  String.fromUTF8? ⟨bytes.toArray⟩

/-- The white space between tokens: tab, line feed, carriage return and space. -/
def isBlankByte (byte : UInt8) : Bool :=
  byte == 0x20 || byte == 0x0A || byte == 0x0D || byte == 0x09

/-- What stands for itself or one escape between the quotes of a string: a byte, or a 16-bit
unit written in hexadecimal. -/
inductive Piece where
  | byte (value : UInt8)
  | unit (code : Nat)
  deriving DecidableEq, Repr

/-- The value of a hexadecimal digit. -/
def hexDigit? (byte : UInt8) : Option Nat :=
  Text.hexValue? (Char.ofNat byte.toNat)

/-- The unit that four hexadecimal digits denote. -/
def hexUnit? (first second third fourth : UInt8) : Option Nat := do
  let a ← hexDigit? first
  let b ← hexDigit? second
  let c ← hexDigit? third
  let d ← hexDigit? fourth
  pure (((a * 16 + b) * 16 + c) * 16 + d)

def escaped? (letter : UInt8) : Option UInt8 :=
  [(byteOf '"', byteOf '"'), (byteOf '\\', byteOf '\\'), (byteOf '/', byteOf '/'),
    (byteOf 'b', 0x08), (byteOf 'f', 0x0C), (byteOf 'n', 0x0A), (byteOf 'r', 0x0D),
    (byteOf 't', 0x09)].lookup letter

/-- The pieces of a string up to its closing quote, in reverse, and the bytes after the quote.
A control character may not stand for itself. -/
def pieces? : List UInt8 → List Piece → Option (List Piece × List UInt8)
  | [], _ => none
  | 0x22 :: rest, reversed => some (reversed, rest)
  | 0x5C :: 0x75 :: a :: b :: c :: d :: rest, reversed =>
    match hexUnit? a b c d with
    | some code => pieces? rest (.unit code :: reversed)
    | none => none
  | 0x5C :: letter :: rest, reversed =>
    match escaped? letter with
    | some byte => pieces? rest (.byte byte :: reversed)
    | none => none
  | byte :: rest, reversed =>
    if byte < 0x20 || byte == 0x5C then none else pieces? rest (.byte byte :: reversed)

/-- The bytes that pieces denote: a unit stands for its character, two surrogates for one. -/
def bytesOfPieces? : List Piece → List UInt8 → Option (List UInt8)
  | [], reversed => some reversed.reverse
  | .byte value :: rest, reversed => bytesOfPieces? rest (value :: reversed)
  | .unit code :: rest, reversed =>
    if 0xD800 ≤ code ∧ code < 0xDC00 then
      match rest with
      | .unit low :: rest =>
        if 0xDC00 ≤ low ∧ low < 0xE000 then
          let character := Char.ofNat (0x10000 + (code - 0xD800) * 0x400 + (low - 0xDC00))
          bytesOfPieces? rest ((String.utf8EncodeChar character).reverse ++ reversed)
        else none
      | _ => none
    else if 0xDC00 ≤ code ∧ code < 0xE000 then none
    else bytesOfPieces? rest ((String.utf8EncodeChar (Char.ofNat code)).reverse ++ reversed)

/-- The content of a string, if its pieces denote a text. -/
def contentOfPieces (pieces : List Piece) : Option String :=
  (bytesOfPieces? pieces []).bind textOf?

def isDigitByte (byte : UInt8) : Bool :=
  0x30 ≤ byte && byte ≤ 0x39

def ofDigitBytes (bytes : List UInt8) : Nat :=
  bytes.foldl (fun value byte => 10 * value + (byte.toNat - 48)) 0

/-- The digits at the front of some bytes, and the others. -/
def splitDigits (bytes : List UInt8) : List UInt8 × List UInt8 :=
  (bytes.takeWhile isDigitByte, bytes.dropWhile isDigitByte)

/-- Takes off the digits of the whole part: one zero, or digits that start with another. -/
def wholePart? (bytes : List UInt8) : Option (Nat × List UInt8) :=
  match bytes with
  | [] => none
  | byte :: rest =>
    if byte == 0x30 then some (0, rest)
    else if isDigitByte byte then
      let (digits, rest) := splitDigits bytes
      some (ofDigitBytes digits, rest)
    else none

/-- Takes off a fraction, if there is one. -/
def fraction? (bytes : List UInt8) : Option (Bool × List UInt8) :=
  match bytes with
  | 0x2E :: rest =>
    let (digits, rest) := splitDigits rest
    if digits.isEmpty then none else some (true, rest)
  | _ => some (false, bytes)

/-- Takes off an exponent, if there is one. -/
def exponent? (bytes : List UInt8) : Option (Bool × List UInt8) :=
  match bytes with
  | 0x65 :: rest | 0x45 :: rest =>
    let unsigned := match rest with
      | 0x2B :: after => after
      | 0x2D :: after => after
      | _ => rest
    let (digits, rest) := splitDigits unsigned
    if digits.isEmpty then none else some (true, rest)
  | _ => some (false, bytes)

/-- Reads a number literal. -/
def number? (bytes : List UInt8) : Option (Token × List UInt8) := do
  let (negative, unsigned) := match bytes with
    | 0x2D :: rest => (true, rest)
    | _ => (false, bytes)
  let (whole, rest) ← wholePart? unsigned
  let (hasFraction, rest) ← fraction? rest
  let (hasExponent, rest) ← exponent? rest
  let isInteger := !hasFraction && !hasExponent && !(negative && whole == 0)
  pure (if isInteger then .integer (if negative then -whole else whole) else .decimal, rest)

/-- Takes a word off the front of some bytes. -/
def word? (word : String) (bytes : List UInt8) : Option (List UInt8) :=
  let expected := bytesOf word
  if expected.isPrefixOf bytes then some (bytes.drop expected.length) else none

/-- Reads the token that starts with a byte that is not white space. -/
def token? (byte : UInt8) (rest : List UInt8) : Option (Token × List UInt8) :=
  match Char.ofNat byte.toNat with
  | '[' => some (.openArray, rest)
  | ']' => some (.closeArray, rest)
  | '\x7b' => some (.openObject, rest)
  | '\x7d' => some (.closeObject, rest)
  | ',' => some (.comma, rest)
  | ':' => some (.colon, rest)
  | 'n' => (word? "ull" rest).map (fun rest => (.null, rest))
  | 't' => (word? "rue" rest).map (fun rest => (.bool true, rest))
  | 'f' => (word? "alse" rest).map (fun rest => (.bool false, rest))
  | '"' => (pieces? rest []).map (fun (reversed, rest) =>
      (.text (contentOfPieces reversed.reverse), rest))
  | _ => number? (byte :: rest)

theorem length_of_pieces? {bytes rest : List UInt8} {pieces reversed : List Piece}
    (read : pieces? bytes reversed = some (pieces, rest)) : rest.length < bytes.length := by
  fun_induction pieces? bytes reversed with
  | case1 => contradiction
  | case2 after => simp_all
  | case3 a b c d after reversed code unit ih =>
    have := ih read
    simp only [List.length_cons]
    omega
  | case4 => contradiction
  | case5 letter after reversed _ byte found ih =>
    have := ih read
    simp only [List.length_cons]
    omega
  | case6 => contradiction
  | case7 => contradiction
  | case8 byte after reversed _ _ _ plain ih =>
    have := ih read
    simp only [List.length_cons]
    omega

theorem length_splitDigits (bytes : List UInt8) : (splitDigits bytes).2.length ≤ bytes.length := by
  simpa [splitDigits] using (List.dropWhile_sublist _).length_le

theorem length_of_wholePart? {bytes rest : List UInt8} {value : Nat}
    (read : wholePart? bytes = some (value, rest)) : rest.length < bytes.length := by
  unfold wholePart? at read
  split at read
  · contradiction
  · rename_i byte after
    split at read
    · simp only [Option.some.injEq, Prod.mk.injEq] at read
      simp [← read.2]
    · split at read
      · rename_i isDigit
        simp only [splitDigits, List.dropWhile_cons, isDigit, if_true, Option.some.injEq,
          Prod.mk.injEq] at read
        have := (List.dropWhile_sublist isDigitByte (l := after)).length_le
        simp only [← read.2, List.length_cons]
        omega
      · contradiction

theorem length_of_fraction? {bytes rest : List UInt8} {present : Bool}
    (read : fraction? bytes = some (present, rest)) : rest.length ≤ bytes.length := by
  unfold fraction? at read
  split at read
  · rename_i after
    have := length_splitDigits after
    simp only [Option.ite_none_left_eq_some, Option.some.injEq, Prod.mk.injEq] at read
    simp only [← read.2.2, List.length_cons]
    omega
  · simp_all

theorem length_of_exponent? {bytes rest : List UInt8} {present : Bool}
    (read : exponent? bytes = some (present, rest)) : rest.length ≤ bytes.length := by
  unfold exponent? at read
  split at read
  · rename_i after
    simp only [Option.ite_none_left_eq_some, Option.some.injEq, Prod.mk.injEq] at read
    rw [← read.2.2]
    refine Nat.le_trans (length_splitDigits _) ?_
    split <;> simp only [List.length_cons] <;> omega
  · rename_i after
    simp only [Option.ite_none_left_eq_some, Option.some.injEq, Prod.mk.injEq] at read
    rw [← read.2.2]
    refine Nat.le_trans (length_splitDigits _) ?_
    split <;> simp only [List.length_cons] <;> omega
  · simp_all

theorem length_of_number? {bytes rest : List UInt8} {token : Token}
    (read : number? bytes = some (token, rest)) : rest.length < bytes.length := by
  unfold number? at read
  simp only [Option.bind_eq_bind, Option.bind_eq_some_iff] at read
  obtain ⟨⟨whole, afterWhole⟩, readWhole, ⟨hasFraction, afterFraction⟩, readFraction,
    ⟨hasExponent, afterExponent⟩, readExponent, ending⟩ := read
  have fractionLength := length_of_fraction? readFraction
  have exponentLength := length_of_exponent? readExponent
  have wholeLength := length_of_wholePart? readWhole
  have same : rest = afterExponent := by
    simp only [pure, Option.some.injEq, Prod.mk.injEq] at ending
    exact ending.2.symm
  subst same
  split at wholeLength <;> simp_all <;> omega

theorem length_of_word? {word : String} {bytes rest : List UInt8}
    (read : word? word bytes = some rest) : rest.length ≤ bytes.length := by
  simp only [word?, Option.ite_none_right_eq_some, Option.some.injEq] at read
  simp [← read.2]

theorem length_of_token? {byte : UInt8} {bytes rest : List UInt8} {token : Token}
    (read : token? byte bytes = some (token, rest)) : rest.length ≤ bytes.length := by
  unfold token? at read
  split at read
  case h_7 | h_8 | h_9 =>
    simp only [Option.map_eq_some_iff, Prod.mk.injEq] at read
    obtain ⟨after, word, _, rfl⟩ := read
    exact length_of_word? word
  case h_10 =>
    simp only [Option.map_eq_some_iff, Prod.mk.injEq] at read
    obtain ⟨⟨reversed, after⟩, found, _, rfl⟩ := read
    exact Nat.le_of_lt (length_of_pieces? found)
  case h_11 =>
    exact Nat.le_of_lt_succ (length_of_number? read)
  all_goals simp_all

end RegisterGateway.Json
