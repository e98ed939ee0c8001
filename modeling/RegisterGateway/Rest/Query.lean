import RegisterGateway.Text.Hexadecimal
import RegisterGateway.Text.Lossy
import RegisterGateway.Text.Numeral

/-!
# Queries

A query is a list of pairs between ampersands. In names and values a plus sign is a space
and a percent sign with two hexadecimal digits is a byte. A read query has four known
names, each of which may be given once; the numbers must fit their types.
-/

namespace RegisterGateway.Rest

/-- The bytes that the written characters denote. -/
def unescape : List Char → List UInt8
  | [] => []
  | '+' :: rest => 0x20 :: unescape rest
  | '%' :: high :: low :: rest =>
    match Text.hexValue? high, Text.hexValue? low with
    | some high, some low => UInt8.ofNat (16 * high + low) :: unescape rest
    | _, _ => 0x25 :: unescape (high :: low :: rest)
  | character :: rest => String.utf8EncodeChar character ++ unescape rest

def unescapedText (written : List Char) : String :=
  String.ofList (Text.lossyChars (unescape written))

/-- The pairs of a query; a pair without an equals sign has an empty value. -/
def queryPairs (query : String) : List (String × String) :=
  ((query.splitOn "&").filter (fun pair => !pair.isEmpty)).map (fun pair =>
    let written := pair.toList
    (unescapedText (written.takeWhile (· ≠ '=')),
      unescapedText ((written.dropWhile (· ≠ '=')).drop 1)))

/-- What a read asks for. -/
structure ReadQuery where
  memory : Option String := none
  area : Option String := none
  address : Option UInt16 := none
  count : Option Nat := none
  deriving DecidableEq, Repr

namespace ReadQuery

/-- A field that is given for the first time. -/
def once? {α : Type} (previous : Option α) (value : Option α) : Option (Option α) :=
  match previous with
  | some _ => none
  | none => value.map some

/-- Takes one pair; unknown names are ignored. -/
def take? (query : ReadQuery) (pair : String × String) : Option ReadQuery := do
  let (name, value) := pair
  match name with
  | "memory" =>
      let memory ← once? query.memory (some value)
      pure { query with memory }
  | "area" =>
      let area ← once? query.area (some value)
      pure { query with area }
  | "address" =>
      let address ← once? query.address ((Text.word? 65536 value.toList).map UInt16.ofNat)
      pure { query with address }
  | "count" =>
      let count ← once? query.count (Text.word? 0x10000000000000000 value.toList)
      pure { query with count }
  | _ => pure query

def ofText? (query : String) : Option ReadQuery :=
  (queryPairs query).foldlM take? {}

end ReadQuery

end RegisterGateway.Rest
