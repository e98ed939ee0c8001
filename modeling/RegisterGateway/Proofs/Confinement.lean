import RegisterGateway.Proofs.Operation

/-!
# Confinement of single operations

An operation that fails or reads leaves the whole registry as it was. One that succeeds as a write
puts the values that it was sent into one range of one memory; everything else in the registry
stays, apart from the run that a gate may begin.
-/

namespace RegisterGateway

/-- One registry is another with one memory changed by one write, and nothing else. -/
structure Registry.DiffersBy (key : String) (write : AreaWrite) (before after : Registry) :
    Prop where
  /-- The memory of the key is there before and after, and differs by the write. -/
  memory : ∃ old new, before.find? key = some old ∧ after.find? key = some new ∧
    Store.DiffersBy write old new
  /-- Every other memory is as it was. -/
  others : ∀ other, other ≠ key → after.find? other = before.find? other
  keys : after.memories.keys = before.memories.keys
  defaultKey : after.defaultKey = before.defaultKey

theorem Registry.Wrote.differsBy {before after : Registry} {key : String} {write : AreaWrite}
    (wrote : before.Wrote key write after) : Registry.DiffersBy key write before after where
  memory := by
    obtain ⟨store, present, admitted, left⟩ := wrote.find?_key
    exact ⟨store, store.after write, present, left, Store.differsBy_after admitted⟩
  others other different := wrote.find?_other (Ne.symm different)
  keys := wrote.keys
  defaultKey := wrote.defaultKey

/-- At every entrance and in every state of the memories: what fails or reads changes nothing,
and what succeeds otherwise makes exactly the write that was asked for. -/
theorem operation_confined (operation : Operation) (registry : Registry) :
    ((operation.perform registry).1.isSuccess = false ∨ operation.isRead = true →
      (operation.perform registry).2 = registry) ∧
    ((operation.perform registry).1.isSuccess = true → operation.isRead = false →
      ∃ key write, operation.asked? = some (key, write) ∧
        Registry.DiffersBy key write registry (operation.perform registry).2) := by
  have outcome := operation.outcome_perform registry
  generalize operation.perform registry = performed at outcome ⊢
  cases outcome with
  | failed failure =>
      refine ⟨fun _ => rfl, fun success => ?_⟩
      rw [failure] at success
      contradiction
  | read success reads nothingAsked =>
      refine ⟨fun _ => rfl, fun _ writes => ?_⟩
      rw [reads] at writes
      contradiction
  | @written answer after key write success writes asked wrote operator =>
      constructor
      · rintro (failure | reads)
        · rw [success] at failure
          contradiction
        · rw [writes] at reads
          contradiction
      · intro _ _
        exact ⟨key, write, asked, wrote.differsBy⟩

end RegisterGateway
