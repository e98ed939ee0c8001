import RegisterGateway.Document.Source
import RegisterGateway.Text.Hexadecimal

/-!
# Tags

A tag says what kind of node it stands in front of. It is written behind an exclamation
mark, in ASCII characters and percent escapes, and denotes bytes, which end before the first
zero byte. The escapes must have the shape of UTF-8, but need not denote characters: a tag
that is no text is a tag without a meaning.
-/

namespace RegisterGateway.Document

/-- The kind of a node. -/
structure Tag where
  bytes : List UInt8
  deriving DecidableEq, Repr

namespace Tag

def ofText (text : String) : Tag :=
  ⟨text.toList.flatMap String.utf8EncodeChar⟩

/-- The tag that is nothing but the mark. -/
def mark : Tag := ofText "!"

/-- The tag of truth values. -/
def bool : Tag := ofText "tag:yaml.org,2002:bool"

def integer : Tag := ofText "tag:yaml.org,2002:int"

def decimal : Tag := ofText "tag:yaml.org,2002:float"

/-- The tag of nothing. -/
def null : Tag := ofText "tag:yaml.org,2002:null"

/-- Whether a tag is a document's own: it starts with the mark. -/
def isOwn (tag : Tag) : Bool :=
  tag.bytes.head? == some 0x21

/-- The name in a document's own tag, if it is a text; the mark alone is its own name. -/
def ownName? (tag : Tag) : Option String :=
  match tag.isOwn, tag.bytes with
  | true, [mark] => String.fromUTF8? ⟨#[mark]⟩
  | true, _ :: name => String.fromUTF8? ⟨name.toArray⟩
  | _, _ => none

end Tag

/-! ## Written tags -/

/-- Whether a character may stand in a tag. Commas and square brackets may stand in a whole
address only. -/
def isTagCharacter (whole : Bool) (character : Char) : Bool :=
  isNameCharacter character || ";/?:@&=+$.!~*'()%".toList.contains character ||
    (whole && ",[]".toList.contains character)

/-- How many bytes must follow the first byte of a character. -/
def continuationCount? (byte : Nat) : Option Nat :=
  if byte < 0x80 then some 0
  else if byte < 0xC0 then none
  else if byte < 0xE0 then some 1
  else if byte < 0xF0 then some 2
  else if byte < 0xF8 then some 3
  else none

/-- How many bytes must follow a byte, of which a number was to come before it. -/
def missingAfter? (missing byte : Nat) : Option Nat :=
  match missing with
  | 0 => continuationCount? byte
  | missing + 1 => if 0x80 ≤ byte ∧ byte < 0xC0 then some missing else none

/-- The bytes that percent escapes and plain characters denote. As many escapes as are
missing of a character must come next. -/
def unescapedBytes? (missing : Nat) : List Char → Option (List UInt8)
  | [] => if missing = 0 then some [] else none
  | '%' :: high :: low :: rest => do
      let high ← Text.hexValue? high
      let low ← Text.hexValue? low
      let byte := 16 * high + low
      let missing ← missingAfter? missing byte
      let bytes ← unescapedBytes? missing rest
      pure (UInt8.ofNat byte :: bytes)
  | '%' :: _ => none
  | character :: rest =>
      if missing = 0 then (unescapedBytes? 0 rest).map (String.utf8EncodeChar character ++ ·)
      else none

/-- The bytes that a written part of a tag denotes, up to the first zero byte. -/
def tagBytes? (characters : List Char) : Option (List UInt8) :=
  (unescapedBytes? 0 characters).map (fun bytes => bytes.takeWhile (· ≠ 0))

/-- A tag that has been read, with the number of its characters. -/
structure TagRead where
  handle : String
  suffix : List UInt8
  length : Nat

/-- The named handle at the front of a text: a name between two exclamation marks. -/
def namedHandle? (text : List Char) : Option (List Char) :=
  match text with
  | '!' :: rest =>
    let name := rest.takeWhile isNameCharacter
    match rest.drop name.length with
    | '!' :: _ => some ('!' :: name ++ ['!'])
    | _ => none
  | _ => none

/-- Whether a tag may end where the given text goes on. -/
def endsTag (inFlow : Bool) (rest : List Char) : Bool :=
  startsSeparated rest || (inFlow && rest.head? == some ',')

/-- Reads a tag from its exclamation mark on: a whole address between angle brackets, a
suffix after a named handle, or a suffix after the mark, which may also stand alone. -/
def tag? (inFlow : Bool) (text : List Char) : Option TagRead := do
  match text with
  | '!' :: '<' :: rest =>
    let address := rest.takeWhile (isTagCharacter true)
    let suffix ← tagBytes? address
    if address.isEmpty then none
    match rest.drop address.length with
    | '>' :: after =>
      if endsTag inFlow after then pure ⟨"", suffix, address.length + 3⟩ else none
    | _ => none
  | _ =>
    match namedHandle? text with
    | some handle =>
      let written := (text.drop handle.length).takeWhile (isTagCharacter false)
      let suffix ← tagBytes? written
      if written.isEmpty then none
      let length := handle.length + written.length
      if endsTag inFlow (text.drop length) then pure ⟨String.ofList handle, suffix, length⟩
      else none
    | none =>
      let written := (text.drop 1).takeWhile (isTagCharacter false)
      let suffix ← tagBytes? written
      let length := written.length + 1
      if endsTag inFlow (text.drop length) then
        pure (if suffix.isEmpty then ⟨"", Tag.mark.bytes, length⟩ else ⟨"!", suffix, length⟩)
      else none

end RegisterGateway.Document
