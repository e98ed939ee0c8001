/-!
# Faults of decoding

A document that cannot be decoded is malformed, with one kind of fault that is told apart:
a selector given as a word other than the one that stands for everything.
-/

namespace RegisterGateway.Document

/-- Why a document cannot be decoded. -/
inductive DecodeError where
  | malformed
  | unitIdWord (word : String)
  | memoryWord (word : String)
  deriving DecidableEq, Repr

/-- The wording of a fault that has one. -/
def DecodeError.message? : DecodeError → Option String
  | .malformed => none
  | .unitIdWord word => some s!"unit_ids must be 'all' or a list of 0..255, got '{word}'"
  | .memoryWord word => some s!"memories must be 'all' or a list, got '{word}'"

/-- The value of an optional result; without it the document is malformed. -/
def orMalformed {α : Type} : Option α → Except DecodeError α
  | some value => .ok value
  | none => .error .malformed

/-- What a malformed document comes to, in any way of decoding. -/
def malformed {m : Type → Type} [MonadLiftT (Except DecodeError) m] {α : Type} : m α :=
  liftM (Except.error DecodeError.malformed : Except DecodeError α)

end RegisterGateway.Document
