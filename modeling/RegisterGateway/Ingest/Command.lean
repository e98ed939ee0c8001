import RegisterGateway.Json.Value
import RegisterGateway.Register.Area

/-!
# Ingest commands

A command asks for one range of one memory to be written, with bits given as integers or
with words. Its JSON form is an object of five members, the two lists being left out when
they are empty; members with other names are ignored, a member may not be repeated, and an
array of the five values in their order stands for the object.
-/

namespace RegisterGateway.Ingest

/-- A request to write values to a memory, as it arrived. -/
structure Command where
  memory : String
  area : String
  address : UInt16
  bools : List Int64 := []
  values : List UInt16 := []
  deriving DecidableEq, Repr

namespace Command

/-- The number of values that a command carries. -/
def length (command : Command) : Nat :=
  command.bools.length + command.values.length

def text? : Json.Value → Option String
  | .text content => content
  | _ => none

/-- The word of a value that is an integer below 2^16. -/
def word? : Json.Value → Option UInt16
  | .integer value => if 0 ≤ value ∧ value < 65536 then some (UInt16.ofNat value.toNat) else none
  | _ => none

/-- The signed word of a value that is an integer of 64 bits. -/
def signed? : Json.Value → Option Int64
  | .integer value =>
      if -0x8000000000000000 ≤ value ∧ value < 0x8000000000000000 then some (Int64.ofInt value)
      else none
  | _ => none

/-- The elements of an array, each of which must be readable. -/
def list? {α : Type} (element? : Json.Value → Option α) : Json.Value → Option (List α)
  | .array elements => elements.mapM element?
  | _ => none

/-- The value of the only member of a name; nothing if the name is missing or repeated. -/
def member? (name : String) (members : List (Option String × Json.Value)) : Option Json.Value :=
  match members.filter (fun member => member.1 = some name) with
  | [member] => some member.2
  | _ => none

/-- The list under a name: empty if the name is missing, nothing if it is repeated. -/
def listMember? {α : Type} (element? : Json.Value → Option α) (name : String)
    (members : List (Option String × Json.Value)) : Option (List α) :=
  if members.any (fun member => member.1 = some name) then
    (member? name members).bind (list? element?)
  else some []

/-- The list at a position of an array, which may end before it. -/
def listAt? {α : Type} (element? : Json.Value → Option α) : Option Json.Value → Option (List α)
  | none => some []
  | some value => list? element? value

def ofJson? : Json.Value → Option Command
  | .object members => do
      if members.any (fun member => member.1.isNone) then none
      let memory ← (member? "memory" members).bind text?
      let area ← (member? "area" members).bind text?
      let address ← (member? "address" members).bind word?
      let bools ← listMember? signed? "bools" members
      let values ← listMember? word? "values" members
      pure ⟨memory, area, address, bools, values⟩
  | .array (memory :: area :: address :: rest) => do
      if 2 < rest.length then none
      let memory ← text? memory
      let area ← text? area
      let address ← word? address
      let bools ← listAt? signed? rest[0]?
      let values ← listAt? word? rest[1]?
      pure ⟨memory, area, address, bools, values⟩
  | _ => none

/-- The command that the bytes of a JSON text denote. -/
def ofBytes? (bytes : List UInt8) : Option Command :=
  (Json.Value.ofBytes? bytes).bind ofJson?

/-- The command that the first JSON value of some bytes denotes, whatever follows it. -/
def ofFront? (bytes : List UInt8) : Option Command :=
  (Json.Value.read? bytes).bind (fun found => ofJson? found.1)

/-- The JSON form of a command; empty lists are left out. -/
def toJson (command : Command) : Json.Value :=
  .record (
    [("memory", .string command.memory), ("area", .string command.area),
      ("address", .nat command.address.toNat)] ++
    (if command.bools.isEmpty then []
      else [("bools", .array (command.bools.map fun value => .integer value.toInt))]) ++
    (if command.values.isEmpty then []
      else [("values", .array (command.values.map fun value => .nat value.toNat))]))

end Command

end RegisterGateway.Ingest
