import RegisterGateway.Ordered.Table
import RegisterGateway.Register.Store
import RegisterGateway.Text.Numeral

/-!
# Memory registries

A registry names its memories by keys and has one default among them. No operation adds
or removes a memory: `access` replaces the store under one key by what an operation made
of it.
-/

namespace RegisterGateway

/-- The memories of a gateway and the key of the default one. -/
structure Registry where
  memories : Table String Store
  defaultKey : String
  deriving DecidableEq

/-- Why a registry cannot be made. -/
inductive RegistryError where
  | empty
  | missingDefault (key : String)
  deriving DecidableEq, Repr

def RegistryError.message : RegistryError → String
  | .empty => "no memories defined"
  | .missingDefault key => "default memory not registered: " ++ key

namespace Registry

/-- A registry of one or more memories whose default is among them. -/
def make (memories : Table String Store) (defaultKey : String) :
    Except RegistryError Registry :=
  if memories.isEmpty then .error .empty
  else if memories.contains defaultKey then .ok ⟨memories, defaultKey⟩
  else .error (.missingDefault defaultKey)

def find? (registry : Registry) (key : String) : Option Store :=
  registry.memories.find? key

/-- Whether a key names a memory. -/
def contains (registry : Registry) (key : String) : Bool :=
  registry.memories.contains key

/-- The key of the memory with a number: its plain decimal form. -/
def keyOfId (id : UInt16) : String :=
  Text.decimal id.toNat

def replace (registry : Registry) (key : String) (store : Store) : Registry :=
  { registry with memories := registry.memories.replace key store }

@[simp] theorem defaultKey_replace (registry : Registry) (key : String) (store : Store) :
    (registry.replace key store).defaultKey = registry.defaultKey := rfl

theorem find?_replace (registry : Registry) (key other : String) (store : Store) :
    (registry.replace key store).find? other =
      if key = other then (registry.find? other).map (fun _ => store) else registry.find? other :=
  Table.find?_replace registry.memories key other store

/-- Replacing a store by itself changes nothing. -/
theorem replace_of_find? {registry : Registry} {key : String} {store : Store}
    (found : registry.find? key = some store) : registry.replace key store = registry := by
  rw [replace, Table.replace_of_find? found]

end Registry

end RegisterGateway
