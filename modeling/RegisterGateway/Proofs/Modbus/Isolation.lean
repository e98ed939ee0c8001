import RegisterGateway.Proofs.Modbus.Answer
import RegisterGateway.Proofs.Sequence

/-!
# Isolation by reach

Requests that reach some memories only neither tell anything of the others nor change them. Of the
memories that they reach they change the areas of the operator, and these only once the memory
runs; before its run a memory answers alike whatever it holds.
-/

namespace RegisterGateway

/-! ## One memory -/

/-- One store is another with changes in the areas of the operator, which are made during the run
only. -/
structure Store.OperatorChanged (before after : Store) : Prop where
  discreteInputs : after.discreteInputs = before.discreteInputs
  inputRegisters : after.inputRegisters = before.inputRegisters
  state : after.state = before.state
  preRun : before.state = .preRun → after = before

namespace Store.OperatorChanged

variable {before middle after : Store}

theorem refl (store : Store) : OperatorChanged store store :=
  ⟨rfl, rfl, rfl, fun _ => rfl⟩

theorem trans (first : OperatorChanged before middle) (second : OperatorChanged middle after) :
    OperatorChanged before after where
  discreteInputs := second.discreteInputs.trans first.discreteInputs
  inputRegisters := second.inputRegisters.trans first.inputRegisters
  state := second.state.trans first.state
  preRun waits := by
    have same := first.preRun waits
    rw [second.preRun (same ▸ waits), same]

theorem ofWrite {store : Store} {write : AreaWrite} (operator : write.area.isOperator = true)
    (runs : store.state = .run) : OperatorChanged store (store.after write) where
  discreteInputs := by
    have different : write.area ≠ .discreteInputs := by
      intro same
      simp [same, Area.isOperator] at operator
    exact cells_after_of_ne store write different
  inputRegisters := by
    have different : write.area ≠ .inputRegisters := by
      intro same
      simp [same, Area.isOperator] at operator
    exact cells_after_of_ne store write different
  state := (state_after_of_run runs write).trans runs.symm
  preRun waits := by
    rw [runs] at waits
    contradiction

end Store.OperatorChanged

namespace Modbus

theorem operatorChanged_answerAt (code : UInt8) (data : List UInt8) (store : Store) :
    store.OperatorChanged (answerAt code data store).2 := by
  have handled := answerAt_handled code data store
  generalize answerAt code data store = result at handled
  cases handled with
  | turnedDown | read => exact .refl store
  | written answered writes asked operator runs admitted => exact .ofWrite operator runs

/-- A code that reads changes nothing. -/
theorem answerAt_of_readCodes {code : UInt8} (reads : PortPolicy.readCodes.contains code = true)
    (data : List UInt8) (store : Store) : (answerAt code data store).2 = store := by
  have handled := answerAt_handled code data store
  generalize answerAt code data store = result at handled
  cases handled with
  | turnedDown | read => rfl
  | written answered writes asked operator runs admitted =>
      rw [reads] at writes
      contradiction

/-- Before its run a memory answers the same, whatever it holds, and is left as it is. -/
theorem answerAt_of_preRun {store : Store} (waits : store.state = .preRun) (code : UInt8)
    (data : List UInt8) :
    answerAt code data store = (exceptionResponse code .illegalFunction, store) := by
  apply if_pos
  simp [Store.isPreRun, waits]

end Modbus

/-! ## What requests change -/

variable {within : String → Prop}

/-- One registry is another after requests that reach the memories of some keys only. -/
structure Registry.ChangedWithin (within : String → Prop) (before after : Registry) : Prop where
  outside : ∀ key, ¬ within key → after.find? key = before.find? key
  memory : ∀ key old, before.find? key = some old →
    ∃ new, after.find? key = some new ∧ old.OperatorChanged new

namespace Registry.ChangedWithin

variable {before middle after : Registry}

theorem refl (registry : Registry) : registry.ChangedWithin within registry :=
  ⟨fun _ _ => rfl, fun _ store present => ⟨store, present, .refl store⟩⟩

theorem trans (first : before.ChangedWithin within middle)
    (second : middle.ChangedWithin within after) : before.ChangedWithin within after where
  outside key notWithin := (second.outside key notWithin).trans (first.outside key notWithin)
  memory key old present := by
    obtain ⟨between, presentBetween, firstChange⟩ := first.memory key old present
    obtain ⟨new, left, secondChange⟩ := second.memory key between presentBetween
    exact ⟨new, left, firstChange.trans secondChange⟩

theorem ofReplace {key : String} (reached : within key) {old new : Store}
    (present : before.find? key = some old) (changed : old.OperatorChanged new) :
    before.ChangedWithin within (before.replace key new) where
  outside other notWithin := by
    rw [find?_replace, if_neg]
    rintro rfl
    exact notWithin reached
  memory other store presentOther := by
    rw [find?_replace]
    by_cases same : key = other
    · subst same
      rw [present] at presentOther
      cases presentOther
      exact ⟨new, by rw [if_pos rfl, present, Option.map_some], changed⟩
    · exact ⟨store, by rw [if_neg same, presentOther], .refl store⟩

end Registry.ChangedWithin

/-! ## What requests learn -/

/-- Two registries cannot be told apart by requests that reach the memories of some keys only:
under each of these keys they are the same, or both have yet to run. -/
def Registry.AlikeWithin (within : String → Prop) (left right : Registry) : Prop :=
  ∀ key, within key → left.find? key = right.find? key ∨
    ∃ first second, left.find? key = some first ∧ right.find? key = some second ∧
      first.state = .preRun ∧ second.state = .preRun

/-- Registries stay alike when one memory is replaced by the same store in both. -/
theorem Registry.AlikeWithin.replace {left right : Registry}
    (alike : left.AlikeWithin within right) {key : String}
    (same : left.find? key = right.find? key) (store : Store) :
    (left.replace key store).AlikeWithin within (right.replace key store) := by
  intro other reached
  rw [find?_replace, find?_replace]
  by_cases isKey : key = other
  · subst isKey
    rw [if_pos rfl, if_pos rfl, same]
    exact .inl rfl
  · rw [if_neg isKey, if_neg isKey]
    exact alike other reached

namespace Modbus

variable {reach : Reach}

theorem changedWithin_answerBy (reaches : ∀ unit code key, reach unit code = some key → within key)
    (unit : UInt8) (request : List UInt8) (registry : Registry) :
    registry.ChangedWithin within (answerBy reach unit request registry).2 := by
  rcases answerBy_cases reach unit request registry with
    ⟨code, fault, turnedDown⟩ | ⟨code, data, key, store, -, reached, present, answered⟩
  · rw [turnedDown]
    exact .refl registry
  · rw [answered]
    exact .ofReplace (reaches unit code key reached) present
      (operatorChanged_answerAt code data store)

/-- Where only codes that read reach a memory, nothing changes. -/
theorem answerBy_of_readCodes
    (reads : ∀ unit code key,
      reach unit code = some key → PortPolicy.readCodes.contains code = true)
    (unit : UInt8) (request : List UInt8) (registry : Registry) :
    (answerBy reach unit request registry).2 = registry := by
  rcases answerBy_cases reach unit request registry with
    ⟨code, fault, turnedDown⟩ | ⟨code, data, key, store, -, reached, present, answered⟩
  · rw [turnedDown]
  · rw [answered, answerAt_of_readCodes (reads unit code key reached)]
    exact Registry.replace_of_find? present

/-- Registries that are alike under the keys that are reached answer a request alike, and stay
so. -/
theorem answerBy_alike (reaches : ∀ unit code key, reach unit code = some key → within key)
    (unit : UInt8) (request : List UInt8) {left right : Registry}
    (alike : left.AlikeWithin within right) :
    (answerBy reach unit request left).1 = (answerBy reach unit request right).1 ∧
      (answerBy reach unit request left).2.AlikeWithin within
        (answerBy reach unit request right).2 := by
  cases request with
  | nil => exact ⟨rfl, alike⟩
  | cons code data =>
      cases reached : reach unit code with
      | none =>
          have unreached (registry : Registry) : reach.find? registry unit code = none := by
            simp [Reach.find?, reached]
          rw [answerBy_unreached (unreached left), answerBy_unreached (unreached right)]
          exact ⟨rfl, alike⟩
      | some key =>
          rcases alike key (reaches unit code key reached) with
            same | ⟨first, second, inLeft, inRight, firstWaits, secondWaits⟩
          · cases present : right.find? key with
            | none =>
                have unreached {registry : Registry} (missing : registry.find? key = none) :
                    reach.find? registry unit code = none := by
                  simp [Reach.find?, reached, missing]
                rw [answerBy_unreached (unreached (same.trans present)),
                  answerBy_unreached (unreached present)]
                exact ⟨rfl, alike⟩
            | some store =>
                rw [answerBy_reached reached (same.trans present),
                  answerBy_reached reached present]
                exact ⟨rfl, alike.replace same _⟩
          · rw [answerBy_reached reached inLeft, answerBy_reached reached inRight,
              answerAt_of_preRun firstWaits, answerAt_of_preRun secondWaits,
              Registry.replace_of_find? inLeft, Registry.replace_of_find? inRight]
            exact ⟨rfl, alike⟩

end Modbus

end RegisterGateway
