/-!
# Open connections

A listener numbers the connections that it opens and keeps, for each of them, the bytes that
have arrived but cannot be served yet. A number is given once: a connection that has ended
never comes back.
-/

namespace RegisterGateway.Net

/-- The open connections of a listener, the latest first, with the bytes that wait in each. -/
structure Connections where
  entries : List (Nat × List UInt8) := []
  opened : Nat := 0
  deriving DecidableEq, Repr

namespace Connections

/-- The number of connections that are open. -/
def live (connections : Connections) : Nat :=
  connections.entries.length

/-- Opens a connection under a new number. -/
def add (connections : Connections) : Nat × Connections :=
  (connections.opened,
    ⟨(connections.opened, []) :: connections.entries, connections.opened + 1⟩)

/-- The bytes that wait in a connection, if it is open. -/
def waiting? (connections : Connections) (number : Nat) : Option (List UInt8) :=
  connections.entries.lookup number

/-- The connections with other bytes waiting in one of them. -/
def keep (connections : Connections) (number : Nat) (waiting : List UInt8) : Connections :=
  { connections with
    entries := connections.entries.map (fun entry =>
      if entry.1 = number then (number, waiting) else entry) }

/-- The connections without one of them. -/
def drop (connections : Connections) (number : Nat) : Connections :=
  { connections with
    entries := connections.entries.filter (fun entry => entry.1 ≠ number) }

/-- The connections without all of them. -/
def dropAll (connections : Connections) : Connections :=
  { connections with entries := [] }

/-- What becomes of a connection: other bytes wait in it, or it has ended. -/
def settle (connections : Connections) (number : Nat) (goesOn : Bool) (waiting : List UInt8) :
    Connections :=
  if goesOn then connections.keep number waiting else connections.drop number

theorem waiting?_keep_self {connections : Connections} {number : Nat} {before : List UInt8}
    (isOpen : connections.waiting? number = some before) (waiting : List UInt8) :
    (connections.keep number waiting).waiting? number = some waiting := by
  obtain ⟨entries, opened⟩ := connections
  simp only [waiting?, keep] at isOpen ⊢
  induction entries with
  | nil => contradiction
  | cons entry rest ih =>
      by_cases same : entry.1 = number
      · simp [same]
      · rw [List.lookup_cons, beq_eq_false_iff_ne.2 (Ne.symm same)] at isOpen
        rw [List.map_cons, if_neg same, List.lookup_cons, beq_eq_false_iff_ne.2 (Ne.symm same)]
        exact ih isOpen

@[simp] theorem waiting?_drop_self (connections : Connections) (number : Nat) :
    (connections.drop number).waiting? number = none := by
  simp only [waiting?, drop, List.lookup_eq_none_iff, List.mem_filter]
  rintro entry ⟨-, different⟩
  simpa using Ne.symm (of_decide_eq_true different)

/-- A connection that has been settled is open with what waits in it, or it has ended. -/
theorem waiting?_settle_self {connections : Connections} {number : Nat} {before : List UInt8}
    (isOpen : connections.waiting? number = some before) (goesOn : Bool) (waiting : List UInt8) :
    (connections.settle number goesOn waiting).waiting? number =
      if goesOn then some waiting else none := by
  cases goesOn with
  | true => exact waiting?_keep_self isOpen waiting
  | false => exact waiting?_drop_self connections number

end Connections

/-- What a listener does upon an event. -/
inductive Outcome where
  /-- A connection is closed as soon as it has arrived. -/
  | refused
  /-- A connection is open under a number. -/
  | admitted (number : Nat)
  /-- Bytes are sent on an open connection, which may end with them. -/
  | served (replies : List UInt8) (goesOn : Bool)
  /-- Nothing listens, or the connection is not open. -/
  | unheard
  deriving DecidableEq, Repr

end RegisterGateway.Net
