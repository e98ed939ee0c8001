import RegisterGateway.Document.DecodeError
import RegisterGateway.Json.Value

/-!
# Data by their own type

A datum is a value that has been read for what it looks like, before anything is known of
what is wanted of it. Maps keep their entries in the order of the document, repeated keys
included.
-/

namespace RegisterGateway.Document

/-- A value of a document. A zero with a minus sign is told apart from zero: it is as good a
number, but counts nothing. `decimal` stands for every number that is no integer. -/
inductive Datum where
  | null
  | bool (value : Bool)
  | integer (value : Int)
  | negativeZero
  | decimal
  | text (value : String)
  | list (items : List Datum)
  | map (entries : List (Datum × Datum))
  deriving Repr

namespace Datum

def byte? : Datum → Option UInt8
  | .integer value => if 0 ≤ value ∧ value < 256 then some (UInt8.ofNat value.toNat) else none
  | .negativeZero => some 0
  | _ => none

def text? : Datum → Option String
  | .text value => some value
  | _ => none

def isNull : Datum → Bool
  | .null => true
  | _ => false

/-- Whether a datum is null or a map without entries. -/
def isVoid : Datum → Bool
  | .null | .map [] => true
  | _ => false

/-- The items of a list, each of which must be readable. -/
def listOf? {α : Type} (item? : Datum → Option α) : Datum → Option (List α)
  | .list items => items.mapM item?
  | _ => none

/-- The name that a key denotes: a text is a name itself, a number counts the known names. -/
def nameAmong? (names : List String) : Datum → Option String
  | .text name => some name
  | .integer (.ofNat position) => some (names.getD position "")
  | _ => none

mutual

def ofJson? : Json.Value → Option Datum
  | .null => some .null
  | .bool value => some (.bool value)
  | .integer value => some (.integer value)
  | .decimal => some .decimal
  | .text content => content.map .text
  | .array elements => (itemsOfJson? elements).map .list
  | .object members => (entriesOfJson? members).map .map

def itemsOfJson? : List Json.Value → Option (List Datum)
  | [] => some []
  | value :: rest => do
      let item ← ofJson? value
      let items ← itemsOfJson? rest
      pure (item :: items)

def entriesOfJson? : List (Option String × Json.Value) → Option (List (Datum × Datum))
  | [] => some []
  | (name, value) :: rest => do
      let name ← name
      let item ← ofJson? value
      let entries ← entriesOfJson? rest
      pure ((.text name, item) :: entries)

end

/-- Takes a JSON value as a datum; it must hold no text or name without content. -/
def ofJson (value : Json.Value) : Except DecodeError Datum :=
  orMalformed (ofJson? value)

mutual

/-- The JSON value of a datum; keys of a map that are not texts have no name. -/
def toJson : Datum → Json.Value
  | .null => .null
  | .bool value => .bool value
  | .integer value => .integer value
  | .negativeZero => .integer 0
  | .decimal => .decimal
  | .text value => .string value
  | .list items => .array (itemsToJson items)
  | .map entries => .object (entriesToJson entries)

def itemsToJson : List Datum → List Json.Value
  | [] => []
  | item :: rest => item.toJson :: itemsToJson rest

def entriesToJson : List (Datum × Datum) → List (Option String × Json.Value)
  | [] => []
  | (key, value) :: rest => (key.text?, value.toJson) :: entriesToJson rest

end

end Datum

end RegisterGateway.Document
