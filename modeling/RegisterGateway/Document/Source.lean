/-!
# Characters of a document

A document is prepared before it is read: every way to end a line in ASCII or Latin-1
becomes a line feed. A control character may not stand in a document; where there is one, the
document is cut off before the block of characters that it stands in. `Position` counts what
has been passed.
-/

namespace RegisterGateway.Document

/-- Whether a character ends a line. -/
def isBreak (character : Char) : Bool :=
  character == '\n' || character == '\u2028' || character == '\u2029'

def isSpacing (character : Char) : Bool :=
  character == ' ' || character == '\t'

/-- Whether a character separates words: spacing or the end of a line. -/
def isSeparator (character : Char) : Bool :=
  isSpacing character || isBreak character

/-- Whether words end at the front of a text. -/
def startsSeparated : List Char → Bool
  | [] => true
  | character :: _ => isSeparator character

/-- Whether a character may stand in a name: an ASCII letter or digit, `_` or `-`. -/
def isNameCharacter (character : Char) : Bool :=
  ('0' ≤ character && character ≤ '9') || ('a' ≤ character && character ≤ 'z') ||
    ('A' ≤ character && character ≤ 'Z') || character == '_' || character == '-'

/-- Whether a character may stand in a document at all. -/
def isPrintable (character : Char) : Bool :=
  let code := character.toNat
  code == 0x09 || code == 0x0A || code == 0x0D || (0x20 ≤ code && code ≤ 0x7E) ||
    code == 0x85 || (0xA0 ≤ code && code ≤ 0xD7FF) || (0xE000 ≤ code && code ≤ 0xFFFD) ||
    0x10000 ≤ code

/-- Characters with a line feed for each carriage return, pair of both, or next-line
character. -/
def unifyBreaks : List Char → List Char
  | [] => []
  | '\r' :: '\n' :: rest => '\n' :: unifyBreaks rest
  | '\r' :: rest => '\n' :: unifyBreaks rest
  | '\u0085' :: rest => '\n' :: unifyBreaks rest
  | character :: rest => character :: unifyBreaks rest

/-- The characters at the front of a text that fit into a number of bytes. -/
def fitting (room : Nat) : List Char → List Char
  | [] => []
  | character :: rest =>
    if character.utf8Size ≤ room then character :: fitting (room - character.utf8Size) rest
    else []

/-- How many bytes of a document are looked at together. -/
def blockSize : Nat := 16384

/-- The blocks of a text before the first one that has a character that may not stand in a
document. -/
def readable (text : List Char) : List Char :=
  match text with
  | [] => []
  | character :: rest =>
    let others := fitting (blockSize - character.utf8Size) rest
    let block := character :: others
    if block.all isPrintable then block ++ readable (rest.drop others.length) else []
termination_by text.length
decreasing_by simp only [List.length_cons, List.length_drop]; omega

/-- The characters of a document that can be read, and whether it is cut off behind them. -/
structure Source where
  characters : List Char
  isCut : Bool

/-- Prepares a text for reading. -/
def Source.ofText (text : String) : Source :=
  let characters := readable text.toList
  ⟨unifyBreaks characters, characters.length < text.toList.length⟩

/-- Whether a line starts with three dashes or three dots that stand alone. -/
def startsMarker (text : List Char) : Bool :=
  match text with
  | '-' :: '-' :: '-' :: rest => startsSeparated rest
  | '.' :: '.' :: '.' :: rest => startsSeparated rest
  | _ => false

/-- How many characters, bytes, lines, and characters of the current line have been passed. -/
structure Position where
  index : Nat := 0
  offset : Nat := 0
  line : Nat := 0
  column : Nat := 0
  deriving DecidableEq, Repr

namespace Position

def pass (position : Position) (character : Char) : Position :=
  let index := position.index + 1
  let offset := position.offset + character.utf8Size
  if isBreak character then ⟨index, offset, position.line + 1, 0⟩
  else ⟨index, offset, position.line, position.column + 1⟩

def passAll (position : Position) (characters : List Char) : Position :=
  characters.foldl pass position

/-- The position after some more ASCII characters of the same line. -/
def skip (position : Position) (count : Nat) : Position :=
  ⟨position.index + count, position.offset + count, position.line, position.column + count⟩

end Position

end RegisterGateway.Document
