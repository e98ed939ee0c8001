import Mathlib

/-!
# Results of computations that may fail

What a computation in several parts has come to when it has succeeded: every part has
succeeded, one on the result of the other.
-/

namespace RegisterGateway

variable {ε φ α β : Type}

theorem bind_eq_ok_iff {first : Except ε α} {next : α → Except ε β} {result : β} :
    first >>= next = .ok result ↔ ∃ value, first = .ok value ∧ next value = .ok result := by
  cases first with
  | error reason =>
      constructor
      · intro succeeded
        cases succeeded
      · rintro ⟨value, succeeded, -⟩
        cases succeeded
  | ok value => simp [bind, Except.bind]

theorem bind_eq_error_iff {first : Except ε α} {next : α → Except ε β} {reason : ε} :
    first >>= next = .error reason ↔
      first = .error reason ∨ ∃ value, first = .ok value ∧ next value = .error reason := by
  cases first <;> simp [bind, Except.bind]

theorem exists_bind_pure_eq_ok_iff {first : Except ε α} {transform : α → β} {holds : β → Prop} :
    (∃ result, (first >>= fun value => pure (transform value)) = .ok result ∧ holds result) ↔
      ∃ value, first = .ok value ∧ holds (transform value) := by
  cases first with
  | error reason => exact ⟨nofun, nofun⟩
  | ok value => simp [bind, Except.bind, pure, Except.pure]

theorem map_eq_ok_iff {first : Except ε α} {transform : α → β} {result : β} :
    first.map transform = .ok result ↔ ∃ value, first = .ok value ∧ transform value = result := by
  cases first <;> simp [Except.map]

theorem map_eq_error_iff {first : Except ε α} {transform : α → β} {reason : ε} :
    first.map transform = .error reason ↔ first = .error reason := by
  cases first <;> simp [Except.map]

theorem mapError_eq_ok_iff {first : Except ε α} {reword : ε → φ} {result : α} :
    first.mapError reword = .ok result ↔ first = .ok result := by
  cases first <;> simp [Except.mapError]

theorem mapError_eq_error_iff {first : Except ε α} {reword : ε → φ} {reason : φ} :
    first.mapError reword = .error reason ↔
      ∃ original, first = .error original ∧ reword original = reason := by
  cases first <;> simp [Except.mapError]

theorem mapM_cons_eq_ok_iff {compute : α → Except ε β} {value : α} {rest : List α}
    {results : List β} :
    (value :: rest).mapM compute = .ok results ↔
      ∃ first later, compute value = .ok first ∧ rest.mapM compute = .ok later ∧
        results = first :: later := by
  rw [List.mapM_cons, bind_eq_ok_iff]
  refine exists_congr fun first => ?_
  rw [bind_eq_ok_iff, exists_and_left]
  exact and_congr_right fun _ => exists_congr fun later => and_congr_right fun _ =>
    ⟨fun same => (Except.ok.inj same).symm, fun same => congrArg Except.ok same.symm⟩

/-- Where several computations succeed, each of them has succeeded, and theirs are the results. -/
theorem mem_iff_of_mapM {compute : α → Except ε β} {values : List α} {results : List β}
    (made : values.mapM compute = .ok results) :
    (∀ value ∈ values, ∃ result, compute value = .ok result) ∧
      ∀ result, result ∈ results ↔ ∃ value ∈ values, compute value = .ok result := by
  induction values generalizing results with
  | nil =>
      cases made
      exact ⟨nofun, fun result => ⟨nofun, nofun⟩⟩
  | cons value rest ih =>
      obtain ⟨first, later, ofFirst, ofRest, rfl⟩ := mapM_cons_eq_ok_iff.1 made
      obtain ⟨succeeded, members⟩ := ih ofRest
      refine ⟨List.forall_mem_cons.2 ⟨⟨first, ofFirst⟩, succeeded⟩, fun result => ?_⟩
      simp only [List.mem_cons, members, exists_eq_or_imp, ofFirst, Except.ok.injEq]
      rw [eq_comm]

/-- There are no results only where there is nothing to compute. -/
theorem eq_nil_iff_of_mapM {compute : α → Except ε β} {values : List α} {results : List β}
    (made : values.mapM compute = .ok results) : results = [] ↔ values = [] := by
  constructor
  · rintro rfl
    obtain ⟨succeeded, members⟩ := mem_iff_of_mapM made
    refine List.eq_nil_iff_forall_not_mem.2 fun value member => ?_
    obtain ⟨result, ofValue⟩ := succeeded value member
    exact List.not_mem_nil ((members result).2 ⟨value, member, ofValue⟩)
  · rintro rfl
    cases made
    rfl

/-- Where several computations fail, one of them has failed in the same way. -/
theorem exists_error_of_mapM {compute : α → Except ε β} {values : List α} {reason : ε}
    (failed : values.mapM compute = .error reason) :
    ∃ value ∈ values, compute value = .error reason := by
  induction values with
  | nil => cases failed
  | cons value rest ih =>
      rw [List.mapM_cons] at failed
      cases first : compute value with
      | error firstReason =>
          rw [first] at failed
          cases failed
          exact ⟨value, List.mem_cons_self, first⟩
      | ok result =>
          rw [first] at failed
          cases later : rest.mapM compute with
          | error laterReason =>
              simp only [later] at failed
              cases failed
              obtain ⟨found, member, same⟩ := ih later
              exact ⟨found, List.mem_cons_of_mem value member, same⟩
          | ok results =>
              simp only [later] at failed
              cases failed

/-- Several computations succeed together if each of them does. -/
theorem exists_mapM_iff {compute : α → Except ε β} {values : List α} :
    (∃ results, values.mapM compute = .ok results) ↔
      ∀ value ∈ values, ∃ result, compute value = .ok result := by
  constructor
  · rintro ⟨results, made⟩
    exact (mem_iff_of_mapM made).1
  · intro succeeds
    cases made : values.mapM compute with
    | ok results => exact ⟨results, rfl⟩
    | error reason =>
        obtain ⟨value, member, failed⟩ := exists_error_of_mapM made
        obtain ⟨result, succeeded⟩ := succeeds value member
        cases failed.symm.trans succeeded

end RegisterGateway
