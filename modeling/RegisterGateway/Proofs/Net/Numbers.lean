import Mathlib.Data.List.Basic
import RegisterGateway.Net.Connections

/-!
# The numbers of open connections

Connections are told apart by the numbers under which they have been opened. Waiting bytes do
not change which numbers these are, and what is done with one connection changes nothing that
waits on another.
-/

namespace RegisterGateway.Net

/-- The number of a connection that is open from now on. -/
def Outcome.admitted? : Outcome → Option Nat
  | .admitted number => some number
  | .refused | .served .. | .unheard => none

/-- Whether a connection ends with an outcome. -/
def Outcome.isEnd : Outcome → Bool
  | .served _ goesOn => !goesOn
  | .refused | .admitted _ | .unheard => false

namespace Connections

variable {connections : Connections} {number other : Nat}

/-- The numbers of the open connections, the latest first. -/
def numbers (connections : Connections) : List Nat :=
  connections.entries.map Prod.fst

theorem length_numbers (connections : Connections) :
    connections.numbers.length = connections.live :=
  List.length_map _

theorem waiting?_isSome_iff :
    (connections.waiting? number).isSome ↔ number ∈ connections.numbers := by
  rw [waiting?, List.lookup_isSome_iff, numbers, List.mem_map]
  simp

theorem numbers_keep (connections : Connections) (number : Nat) (waiting : List UInt8) :
    (connections.keep number waiting).numbers = connections.numbers := by
  simp only [numbers, keep, List.map_map]
  apply List.map_congr_left
  intro entry _
  by_cases same : entry.1 = number
  · simp [same]
  · simp [same]

theorem numbers_drop (connections : Connections) (number : Nat) :
    (connections.drop number).numbers =
      connections.numbers.filter fun other => other ≠ number := by
  simp only [numbers, drop, List.filter_map]
  rfl

theorem waiting?_add (connections : Connections) (number : Nat) :
    connections.add.2.waiting? number =
      if number = connections.opened then some [] else connections.waiting? number := by
  rw [waiting?, add, List.lookup_cons]
  by_cases same : number = connections.opened
  · simp [same]
  · rw [beq_eq_false_iff_ne.2 same, if_neg same]
    rfl

theorem waiting?_keep_of_ne (different : other ≠ number) (waiting : List UInt8) :
    (connections.keep number waiting).waiting? other = connections.waiting? other := by
  obtain ⟨entries, opened⟩ := connections
  simp only [waiting?, keep]
  induction entries with
  | nil => rfl
  | cons entry rest ih =>
      rw [List.map_cons, List.lookup_cons, List.lookup_cons, ih]
      by_cases same : entry.1 = number
      · rw [if_pos same, same, beq_eq_false_iff_ne.2 different]
      · rw [if_neg same]

theorem waiting?_drop_of_ne (different : other ≠ number) :
    (connections.drop number).waiting? other = connections.waiting? other := by
  obtain ⟨entries, opened⟩ := connections
  simp only [waiting?, drop]
  induction entries with
  | nil => rfl
  | cons entry rest ih =>
      by_cases same : entry.1 = number
      · rw [List.filter_cons_of_neg (by simpa using same), ih, List.lookup_cons, same,
          beq_eq_false_iff_ne.2 different]
      · rw [List.filter_cons_of_pos (by simpa using same), List.lookup_cons, List.lookup_cons, ih]

end Connections

end RegisterGateway.Net
