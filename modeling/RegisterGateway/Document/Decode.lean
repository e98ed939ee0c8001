import RegisterGateway.Document.AliasLimit
import RegisterGateway.Document.Datum
import RegisterGateway.Document.Plain
import RegisterGateway.Ordered.Table

/-!
# Decoding nodes

A node is decoded for what is wanted of it: any scalar is a text, only a plain one is a
number or a truth value, and nothing at all is an empty list, table or record. The fields of
a record and the entries of a table are taken in the order of the document, so the first
fault counts. `captured` reads a node by its looks instead.
-/

namespace RegisterGateway.Document

/-- Whether a scalar may be taken for something else than its text. -/
def isReadable (expected : Tag) (tag : Option Tag) (style : Style) : Bool :=
  style = .plain || (style = .literal && tag = some expected)

namespace Tree

/-- Passes over a node without a meaning, which must be whole. Its aliases are not followed. -/
def ignore (node : Node) : Decoding Unit :=
  if node.isWhole then pure () else malformed

def text (tree : Tree) (node : Node) : Decoding String := do
  match ← tree.follow node with
  | .scalar _ _ text => pure text
  | _ => malformed

/-- A truth value. -/
def bool (tree : Tree) (node : Node) : Decoding Bool := do
  match ← tree.follow node with
  | .scalar tag style text =>
      orMalformed (if isReadable .bool tag style then boolWord? text else none)
  | _ => malformed

/-- An integer that is not negative, below a limit. -/
def natural (limit : Nat) (tree : Tree) (node : Node) : Decoding Nat := do
  match ← tree.follow node with
  | .scalar tag style text =>
      orMalformed (if isReadable .integer tag style then natural? limit text.toList else none)
  | _ => malformed

/-- A value that may be missing: nothing, or a word for nothing, stands for none. -/
def optional {α : Type} (value : Tree → Node → Decoding α) (tree : Tree) (node : Node) :
    Decoding (Option α) := do
  let node ← tree.follow node
  match node with
  | .scalar none .plain text =>
      if text.isEmpty || isNullWord text then pure none else some <$> value tree node
  | .scalar (some tag) .plain text =>
      if tag = .null then
        if isNullWord text then pure none else malformed
      else some <$> value tree node
  | _ => some <$> value tree node

def list {α : Type} (item : Tree → Node → Decoding α) (tree : Tree) (node : Node) :
    Decoding (List α) := do
  match ← tree.follow node with
  | .sequence _ items => items.mapM (item tree)
  | .scalar _ .plain "" => pure []
  | _ => malformed

def entries (tree : Tree) (node : Node) : Decoding (List (Node × Node)) := do
  match ← tree.follow node with
  | .mapping _ entries => pure entries
  | .scalar _ .plain "" => pure []
  | _ => malformed

/-- A table; of equal keys the last one counts. -/
def table {κ α : Type} [DecidableEq κ] [LT κ] [DecidableLT κ] [LE κ] [Std.IsLinearOrder κ]
    [Std.LawfulOrderLT κ] (key : Tree → Node → Decoding κ) (value : Tree → Node → Decoding α)
    (tree : Tree) (node : Node) : Decoding (Table κ α) := do
  (← tree.entries node).foldlM (fun table entry => do
    let key ← key tree entry.1
    let value ← value tree entry.2
    pure (table.insert key value)) .empty

/-- Takes the fields of a record one after the other. -/
def foldFields {σ : Type} (step : σ → String → Node → Decoding σ) (start : σ)
    (tree : Tree) (node : Node) : Decoding σ := do
  (← tree.entries node).foldlM (fun state entry => do
    let name ← tree.text entry.1
    step state name entry.2) start

/-- What is known of a record while its fields are taken: its value so far, and the names of
the fields that have been seen. -/
structure Progress (σ : Type) where
  value : σ
  seen : List String := []

/-- Decodes a record from a start value that holds the defaults. A known field may not be
repeated, the required ones may not be missing, and other fields are passed over. -/
def record {σ : Type} (start : σ) (required : List String)
    (fields : List (String × (σ → Tree → Node → Decoding σ)))
    (tree : Tree) (node : Node) : Decoding σ := do
  let last ← foldFields (fun (state : Progress σ) name value =>
    match fields.lookup name with
    | none => do
        ignore value
        pure state
    | some field =>
      if state.seen.contains name then malformed
      else do
        let changed ← field state.value tree value
        pure ⟨changed, name :: state.seen⟩) ⟨start, []⟩ tree node
  if required.all last.seen.contains then pure last.value else malformed

/-- A field of a record: how its value is decoded and how it is put into the record. -/
def field {σ α : Type} (value : Tree → Node → Decoding α) (put : σ → α → σ)
    (state : σ) (tree : Tree) (node : Node) : Decoding σ :=
  put state <$> value tree node

/-- The deepest nesting of collections that can be read by their looks. -/
def maxDepth : Nat := 128

/-- Whether an integer has at most 64 bits, with a sign or without. -/
def isWordSized (value : Int) : Bool :=
  -0x8000000000000000 ≤ value && value < 0x10000000000000000

/-- Whether an integer has at most 128 bits, with a sign or without. -/
def isDoubleSized (value : Int) : Bool :=
  -0x80000000000000000000000000000000 ≤ value && value < 0x100000000000000000000000000000000

/-- The datum of an integer of at most 64 bits. -/
def integerDatum? (text : List Char) : Option Datum := do
  let value ← integer? text
  if value = 0 ∧ text.head? = some '-' then pure .negativeZero
  else if isWordSized value then pure (.integer value)
  else none

/-- The datum that a plain scalar looks like. Integers of more than 64 bits are none, unless
they have more than 128 and count as numbers of another kind. -/
def plainDatum (text : String) : Except DecodeError Datum :=
  let characters := text.toList
  if text.isEmpty || isNullWord text then .ok .null
  else match boolWord? text, integerDatum? characters with
    | some value, _ => .ok (.bool value)
    | none, some datum => .ok datum
    | none, none =>
      if (integer? characters).any isDoubleSized then .error .malformed
      else if !hasLeadingZero (withoutSign characters) && isDecimal characters then .ok .decimal
      else .ok (.text text)

/-- The datum of a scalar: as its tag says, or as it looks if it is plain and has no tag or
one of the document's own that is no text. -/
def scalarDatum (tag : Option Tag) (style : Style) (text : String) :
    Except DecodeError Datum :=
  let characters := text.toList
  let untagged := if style = .plain then plainDatum text else .ok (.text text)
  match tag with
  | none => untagged
  | some tag =>
    if tag.ownName?.isSome then .error .malformed
    else if tag.isOwn then untagged
    else if tag = .bool then (orMalformed (boolWord? text)).map .bool
    else if tag = .integer then orMalformed (integerDatum? characters)
    else if tag = .decimal then if isDecimal characters then .ok .decimal else .error .malformed
    else if tag = .null then if isNullWord text then .ok .null else .error .malformed
    else .ok (.text text)

/-- Reads a node by its looks, down to a depth. A document's own tags have no meaning here. -/
def captured (depth : Nat) (tree : Tree) (node : Node) : Decoding Datum := do
  match depth, ← tree.follow node with
  | _, .scalar tag style text => scalarDatum tag style text
  | depth + 1, .sequence tag items =>
      if (tag.bind Tag.ownName?).isSome then malformed
      else .list <$> items.mapM (captured depth tree)
  | depth + 1, .mapping tag entries =>
      if (tag.bind Tag.ownName?).isSome then malformed
      else .map <$> entries.mapM (fun (entry : Node × Node) => do
        let key ← captured depth tree entry.1
        let value ← captured depth tree entry.2
        pure (key, value))
  | _, _ => malformed

/-- Decodes the only document of a text. -/
def decode {α : Type} (value : Tree → Node → Decoding α) (source : String) :
    Except DecodeError α := do
  let tree ← orMalformed (ofText? source)
  let decoded ← (value tree tree.root).run' tree.aliasLimit
  if tree.endsClean then pure decoded else .error .malformed

end Tree

end RegisterGateway.Document
