import RegisterGateway.Ordered.KeySet

/-!
# Port policies

What the peers of one listening port may ask for: which unit ids, which memories, whether
they may write, and which function codes. A denied function code stays denied in either
access mode; a read-only port allows exactly the four read codes of the rest.
-/

namespace RegisterGateway

/-- Either everything or the keys of a list. -/
inductive Selector (κ : Type) [LT κ] where
  | all
  | listed (keys : KeySet κ)
  deriving DecidableEq

namespace Selector

variable {κ : Type} [LT κ]

def selects [DecidableEq κ] : Selector κ → κ → Bool
  | .all, _ => true
  | .listed keys, key => keys.contains key

/-- The keys of a list; none for `all`. -/
def listedKeys : Selector κ → List κ
  | .all => []
  | .listed keys => keys.elements

/-- Whether the selector is a list without keys. -/
def isEmptyList : Selector κ → Bool
  | .all => false
  | .listed keys => keys.isEmpty

end Selector

/-- Whether the peers of a port may write. -/
inductive AccessMode where
  | readOnly
  | readWrite
  deriving DecidableEq, Repr

namespace AccessMode

def word : AccessMode → String
  | .readOnly => "read-only"
  | .readWrite => "read-write"

def ofWord? (text : String) : Option AccessMode :=
  [readOnly, readWrite].find? (fun mode => mode.word = text)

@[simp] theorem ofWord?_word (mode : AccessMode) : ofWord? mode.word = some mode := by
  cases mode <;> decide

end AccessMode

/-- Lists of allowed and denied function codes, as they were written down. -/
structure FunctionCodeAcl where
  allow : List UInt8 := []
  deny : List UInt8 := []
  deriving DecidableEq, Repr

/-- A code is permitted if it is not denied and, unless the list is empty, allowed. -/
def FunctionCodeAcl.permits (acl : FunctionCodeAcl) (code : UInt8) : Bool :=
  !acl.deny.contains code && (acl.allow.isEmpty || acl.allow.contains code)

/-- The access rules of one listening port. -/
structure PortPolicy where
  unitIds : Selector UInt8
  memories : Selector String
  access : AccessMode
  functionCodes : Option FunctionCodeAcl
  deriving DecidableEq

namespace PortPolicy

def readCodes : List UInt8 := [1, 2, 3, 4]

def deniesFunctionCode (policy : PortPolicy) (code : UInt8) : Bool :=
  policy.functionCodes.any (fun acl => acl.deny.contains code)

/-- Whether a function code may be used: denial comes first, then the access mode; the
list of allowed codes counts on read-write ports only. -/
def allowsFunctionCode (policy : PortPolicy) (code : UInt8) : Bool :=
  if policy.deniesFunctionCode code then false
  else match policy.access with
    | .readOnly => readCodes.contains code
    | .readWrite => policy.functionCodes.all (fun acl => acl.permits code)

end PortPolicy

end RegisterGateway
