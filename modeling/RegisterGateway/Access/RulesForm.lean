import RegisterGateway.Access.PolicyForm
import RegisterGateway.Access.Rules
import RegisterGateway.Text.Numeral

/-!
# The written form of access rules

Routing and port policies are written as objects whose names are numbers in plain decimal form.
-/

namespace RegisterGateway

open Document (Datum DecodeError orMalformed)

/-- The number of a name in plain decimal form, below a limit. -/
def keyNumber? (limit : Nat) (name : Option String) : Option Nat := do
  let key ← name
  let value ← Text.numeral? key.toList
  if value < limit ∧ Text.decimal value = key then some value else none

/-- Reads an object with numbers for names; of equal names the last one counts. -/
def Table.ofJson {κ α : Type} [DecidableEq κ] [LT κ] [DecidableLT κ] [LE κ]
    [Std.IsLinearOrder κ] [Std.LawfulOrderLT κ] (limit : Nat) (key : Nat → κ)
    (value : Json.Value → Except DecodeError α) : Json.Value → Except DecodeError (Table κ α)
  | .object members =>
      members.foldlM (fun table member => do
        let number ← orMalformed (keyNumber? limit member.1)
        let item ← value member.2
        pure (table.insert (key number) item)) .empty
  | _ => .error .malformed

/-- Reads access rules from the JSON forms of their two maps. -/
def AccessRules.ofJson (routing ports : Json.Value) : Except DecodeError AccessRules := do
  let routing ← Table.ofJson 256 UInt8.ofNat (fun value => do
    let datum ← Datum.ofJson value
    orMalformed datum.text?) routing
  let ports ← Table.ofJson 65536 UInt16.ofNat PortPolicy.ofJson ports
  pure ⟨routing, ports⟩

/-- Reads access rules from JSON forms that have been taken as data. -/
def AccessRules.ofData (routing ports : Datum) : Except DecodeError AccessRules :=
  ofJson routing.toJson ports.toJson

end RegisterGateway
