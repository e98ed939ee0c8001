import RegisterGateway.Proofs.Operation

/-!
# The history of a run

A run is a sequence of operations. Its history is the writes that the successful operations have
asked for, and what a run leaves is what these writes leave, taken in their order.
-/

namespace RegisterGateway

/-- The write that an operation has made, going by its answer. -/
def Operation.made? (operation : Operation) (answer : Answer) : Option (String × AreaWrite) :=
  if answer.isSuccess then operation.asked? else none

/-- The registry after some operations. -/
def Registry.afterRun (registry : Registry) (operations : List Operation) : Registry :=
  (sequence Operation.perform operations registry).2

/-- The successful writes of a run, each with the key of its memory. -/
def history (operations : List Operation) (registry : Registry) : List (String × AreaWrite) :=
  (operations.zip (sequence Operation.perform operations registry).1).filterMap
    fun step => step.1.made? step.2

theorem history_cons (operation : Operation) (rest : List Operation) (registry : Registry) :
    history (operation :: rest) registry =
      (operation.made? (operation.perform registry).1).toList ++
        history rest (operation.perform registry).2 := by
  rw [history, sequence_cons, List.zip_cons_cons, List.filterMap_cons]
  cases operation.made? (operation.perform registry).1 <;> rfl

theorem Registry.afterRun_cons (registry : Registry) (operation : Operation)
    (rest : List Operation) :
    registry.afterRun (operation :: rest) = (operation.perform registry).2.afterRun rest := rfl

theorem Registry.afterRun_append (registry : Registry) (earlier later : List Operation) :
    registry.afterRun (earlier ++ later) = (registry.afterRun earlier).afterRun later := by
  induction earlier generalizing registry with
  | nil => rfl
  | cons operation rest ih => exact ih (operation.perform registry).2

/-- One operation makes the write that its answer tells of. -/
theorem follows_perform (operation : Operation) (registry : Registry) :
    registry.Follows (operation.made? (operation.perform registry).1).toList
      (operation.perform registry).2 := by
  have outcome := operation.outcome_perform registry
  generalize operation.perform registry = performed at outcome ⊢
  cases outcome with
  | failed failure =>
      simp only [Operation.made?, failure]
      exact .unchanged registry
  | read success reads nothingAsked =>
      simp only [Operation.made?, success, nothingAsked]
      exact .unchanged registry
  | written success writes asked wrote operator =>
      simp only [Operation.made?, success, asked]
      exact .ofWrote wrote

/-- A run leaves what the writes of its history leave. -/
theorem follows_afterRun (operations : List Operation) (registry : Registry) :
    registry.Follows (history operations registry) (registry.afterRun operations) := by
  induction operations generalizing registry with
  | nil => exact .unchanged registry
  | cons operation rest ih =>
      rw [history_cons, Registry.afterRun_cons]
      exact (follows_perform operation registry).append (ih _)

end RegisterGateway
