import RegisterGateway.Access.Policy
import RegisterGateway.Document.Datum

/-!
# The written form of port policies

A policy is written as a map of four fields, the last of which may be missing: `unit_ids`
and `memories` are the word `all` or a list, `access` is a word, and `function_codes` holds
two lists. Written lists are in order and without repetition, and empty lists of function
codes are left out.

The same fields are read from several sources, which differ in how single values are read;
`FieldReader` is what a source provides. Fields are read in the order of the document and
the first fault counts. What stands under other names is passed over, whatever it is.
-/

namespace RegisterGateway

open Document (Datum DecodeError malformed orMalformed)

def Selector.everything : String := "all"

/-- Reads a selector: the word for everything, or a list; another word is refused. -/
def Selector.ofDatum {κ : Type} [LT κ] [DecidableEq κ] [DecidableLT κ] [LE κ]
    [Std.IsLinearOrder κ] [Std.LawfulOrderLT κ] (key? : Datum → Option κ)
    (refused : String → DecodeError) : Datum → Except DecodeError (Selector κ)
  | .text word => if word = everything then .ok .all else .error (refused word)
  | datum => do
      let keys ← orMalformed (datum.listOf? key?)
      pure (.listed (KeySet.ofList keys))

/-- The JSON form of a selector. -/
def Selector.toJson {κ : Type} [LT κ] (item : κ → Json.Value) : Selector κ → Json.Value
  | .all => .string everything
  | .listed keys => .array (keys.elements.map item)

/-- Reads an access mode: its word, or a map of nothing but the word and a value that counts
as nothing. -/
def AccessMode.ofDatum (isNothing : Datum → Bool) : Datum → Except DecodeError AccessMode
  | .text word => orMalformed (ofWord? word)
  | .map [(key, value)] =>
      if isNothing value then
        orMalformed ((key.nameAmong? [readOnly.word, readWrite.word]).bind ofWord?)
      else .error .malformed
  | _ => .error .malformed

/-- A field that is read for the first time. -/
def once {m : Type → Type} [Monad m] [MonadLiftT (Except DecodeError) m] {α : Type}
    (previous : Option α) (value : m α) : m (Option α) :=
  match previous with
  | some _ => malformed
  | none => some <$> value

namespace FunctionCodeAcl

def fieldNames : List String := ["allow", "deny"]

/-- Lists of function codes of which some have been read. -/
structure Draft where
  allow : Option (List UInt8) := none
  deny : Option (List UInt8) := none

/-- Reads one field; it may not have been read before, and other names are ignored. -/
def Draft.read {m : Type → Type} [Monad m] [MonadLiftT (Except DecodeError) m] {ρ : Type}
    (codes : ρ → m (List UInt8)) (ignore : ρ → m Unit) (draft : Draft) (name : String)
    (value : ρ) : m Draft := do
  match name with
  | "allow" =>
      let allow ← once draft.allow (codes value)
      pure { draft with allow }
  | "deny" =>
      let deny ← once draft.deny (codes value)
      pure { draft with deny }
  | _ =>
      ignore value
      pure draft

/-- The lists of a draft; what is missing is empty. -/
def Draft.complete (draft : Draft) : FunctionCodeAcl :=
  ⟨draft.allow.getD [], draft.deny.getD []⟩

/-- Reads lists from their fields, each of which must have a name. -/
def ofFields {ρ : Type} (codes : ρ → Except DecodeError (List UInt8))
    (fields : List (Option String × ρ)) : Except DecodeError FunctionCodeAcl := do
  let draft ← fields.foldlM (fun (draft : Draft) field => do
    let name ← orMalformed field.1
    draft.read codes (fun _ => .ok ()) name field.2) {}
  pure draft.complete

/-- Reads lists from their values in order, which may end early. -/
def ofValues {ρ : Type} (codes : ρ → Except DecodeError (List UInt8)) :
    List ρ → Except DecodeError FunctionCodeAcl
  | [] => .ok {}
  | [allow] => (codes allow).map (fun allow => ⟨allow, []⟩)
  | [allow, deny] => do
      let allow ← codes allow
      let deny ← codes deny
      pure ⟨allow, deny⟩
  | _ => .error .malformed

def codesOfDatum (datum : Datum) : Except DecodeError (List UInt8) :=
  orMalformed (datum.listOf? Datum.byte?)

/-- Reads lists of function codes: null for none at all, a map of the two fields, or a list of
their values. -/
def ofDatum : Datum → Except DecodeError (Option FunctionCodeAcl)
  | .null => .ok none
  | .map entries =>
      (ofFields codesOfDatum
        (entries.map fun entry => (entry.1.nameAmong? fieldNames, entry.2))).map some
  | .list items => (ofValues codesOfDatum items).map some
  | _ => .error .malformed

def codesOfJson (value : Json.Value) : Except DecodeError (List UInt8) := do
  let datum ← Datum.ofJson value
  codesOfDatum datum

/-- Reads lists of function codes from JSON. -/
def ofJson : Json.Value → Except DecodeError (Option FunctionCodeAcl)
  | .null => .ok none
  | .object members => (ofFields codesOfJson members).map some
  | .array elements => (ofValues codesOfJson elements).map some
  | _ => .error .malformed

/-- The JSON form of some codes. -/
def codesToJson (codes : List UInt8) : Json.Value :=
  .array (codes.map fun code => .nat code.toNat)

/-- The member of some codes; it is left out if there are none. -/
def memberOf (name : String) (codes : List UInt8) : List (Option String × Json.Value) :=
  if codes.isEmpty then [] else [(some name, codesToJson codes)]

/-- The JSON form of lists of function codes. -/
def toJson (acl : FunctionCodeAcl) : Json.Value :=
  .object (memberOf "allow" acl.allow ++ memberOf "deny" acl.deny)

end FunctionCodeAcl

/-- What a source of policies provides, in its way of decoding: how a value is taken as a
datum, how the two typed fields are read, and how a value without meaning is passed over. -/
structure FieldReader (m : Type → Type) (ρ : Type) where
  datum : ρ → m Datum
  access : ρ → m AccessMode
  functionCodes : ρ → m (Option FunctionCodeAcl)
  ignore : ρ → m Unit

section Reading

variable {m : Type → Type} [Monad m] [MonadLiftT (Except DecodeError) m] {ρ : Type}

def FieldReader.unitIds (reader : FieldReader m ρ) (value : ρ) : m (Selector UInt8) := do
  let datum ← reader.datum value
  liftM (Selector.ofDatum Datum.byte? .unitIdWord datum)

def FieldReader.memories (reader : FieldReader m ρ) (value : ρ) : m (Selector String) := do
  let datum ← reader.datum value
  liftM (Selector.ofDatum Datum.text? .memoryWord datum)

end Reading

/-- The reader of values that are data already; some of them count as nothing. -/
def FieldReader.ofData (isNothing : Datum → Bool) : FieldReader (Except DecodeError) Datum where
  datum := .ok
  access := AccessMode.ofDatum isNothing
  functionCodes := FunctionCodeAcl.ofDatum
  ignore := fun _ => .ok ()

/-- The reader of JSON values. -/
def FieldReader.ofJson : FieldReader (Except DecodeError) Json.Value where
  datum := Datum.ofJson
  access value := do
    let datum ← Datum.ofJson value
    AccessMode.ofDatum Datum.isNull datum
  functionCodes := FunctionCodeAcl.ofJson
  ignore := fun _ => .ok ()

namespace PortPolicy

def fieldNames : List String := ["unit_ids", "memories", "access", "function_codes"]

/-- A policy of which some fields have been read. -/
structure Draft where
  unitIds : Option (Selector UInt8) := none
  memories : Option (Selector String) := none
  access : Option AccessMode := none
  functionCodes : Option (Option FunctionCodeAcl) := none

/-- Reads one field; it may not have been read before, and other names are ignored. -/
def Draft.read {m : Type → Type} [Monad m] [MonadLiftT (Except DecodeError) m] {ρ : Type}
    (reader : FieldReader m ρ) (draft : Draft) (name : String) (value : ρ) : m Draft := do
  match name with
  | "unit_ids" =>
      let unitIds ← once draft.unitIds (reader.unitIds value)
      pure { draft with unitIds }
  | "memories" =>
      let memories ← once draft.memories (reader.memories value)
      pure { draft with memories }
  | "access" =>
      let access ← once draft.access (reader.access value)
      pure { draft with access }
  | "function_codes" =>
      let functionCodes ← once draft.functionCodes (reader.functionCodes value)
      pure { draft with functionCodes }
  | _ =>
      reader.ignore value
      pure draft

/-- The policy of a draft, if no required field is missing. -/
def Draft.complete (draft : Draft) : Except DecodeError PortPolicy :=
  match draft.unitIds, draft.memories, draft.access with
  | some unitIds, some memories, some access =>
      .ok ⟨unitIds, memories, access, draft.functionCodes.getD none⟩
  | _, _, _ => .error .malformed

/-- Reads a policy from its fields, each of which must have a name. -/
def ofFields {ρ : Type} (reader : FieldReader (Except DecodeError) ρ)
    (fields : List (Option String × ρ)) : Except DecodeError PortPolicy := do
  let draft ← fields.foldlM (fun draft field => do
    let name ← orMalformed field.1
    Draft.read reader draft name field.2) {}
  draft.complete

/-- Reads a policy from JSON: an object of the fields, or an array of their values in order. -/
def ofJson : Json.Value → Except DecodeError PortPolicy
  | .object members => ofFields .ofJson members
  | .array elements => do
      let policy ← ofFields .ofJson ((fieldNames.map some).zip elements)
      if elements.length ≤ fieldNames.length then pure policy else .error .malformed
  | _ => .error .malformed

/-- The JSON form of a policy. -/
def toJson (policy : PortPolicy) : Json.Value :=
  .object (
    [(some "unit_ids", policy.unitIds.toJson fun unit => .nat unit.toNat),
      (some "memories", policy.memories.toJson .string),
      (some "access", .string policy.access.word)] ++
    policy.functionCodes.toList.map fun acl => (some "function_codes", acl.toJson))

end PortPolicy

end RegisterGateway
