/-!
# Sequences of steps

A step takes an input and a state to an answer and the next state. A sequence of steps is
looked at in two ways: an invariant that every step keeps holds at the end, and two machines
whose steps answer alike from related states answer whole sequences alike.
-/

namespace RegisterGateway

section Sequence

variable {ι ω σ τ : Type}

/-- Takes steps one after the other: their answers in order, and the state that they leave. -/
def sequence (step : ι → σ → ω × σ) : List ι → σ → List ω × σ
  | [], state => ([], state)
  | input :: rest, state =>
      let (answer, next) := step input state
      let (answers, last) := sequence step rest next
      (answer :: answers, last)

theorem sequence_cons (step : ι → σ → ω × σ) (input : ι) (rest : List ι) (state : σ) :
    sequence step (input :: rest) state =
      ((step input state).1 :: (sequence step rest (step input state).2).1,
        (sequence step rest (step input state).2).2) := rfl

/-- Steps after steps. -/
theorem sequence_append (step : ι → σ → ω × σ) (earlier later : List ι) (state : σ) :
    sequence step (earlier ++ later) state =
      ((sequence step earlier state).1 ++
          (sequence step later (sequence step earlier state).2).1,
        (sequence step later (sequence step earlier state).2).2) := by
  induction earlier generalizing state with
  | nil => rfl
  | cons input rest ih => rw [List.cons_append, sequence_cons, sequence_cons, ih, List.cons_append]

/-- There is one answer to each input. -/
theorem length_sequence (step : ι → σ → ω × σ) (inputs : List ι) (state : σ) :
    (sequence step inputs state).1.length = inputs.length := by
  induction inputs generalizing state with
  | nil => rfl
  | cons input rest ih => rw [sequence_cons, List.length_cons, List.length_cons, ih]

/-- What every step keeps, a sequence keeps. -/
theorem sequence_invariant {step : ι → σ → ω × σ} {holds : σ → Prop}
    (keeps : ∀ input state, holds state → holds (step input state).2)
    (inputs : List ι) {state : σ} (start : holds state) :
    holds (sequence step inputs state).2 := by
  induction inputs generalizing state with
  | nil => exact start
  | cons input rest ih => exact ih (keeps input state start)

/-- Machines whose steps answer alike, and stay related, answer whole sequences alike. -/
theorem sequence_simulation {first : ι → σ → ω × σ} {second : ι → τ → ω × τ}
    (related : σ → τ → Prop)
    (simulates : ∀ input left right, related left right →
      (first input left).1 = (second input right).1 ∧
        related (first input left).2 (second input right).2)
    (inputs : List ι) {left : σ} {right : τ} (start : related left right) :
    (sequence first inputs left).1 = (sequence second inputs right).1 ∧
      related (sequence first inputs left).2 (sequence second inputs right).2 := by
  induction inputs generalizing left right with
  | nil => exact ⟨rfl, start⟩
  | cons input rest ih =>
    obtain ⟨sameAnswer, next⟩ := simulates input left right start
    obtain ⟨sameAnswers, last⟩ := ih next
    rw [sequence_cons, sequence_cons]
    exact ⟨by rw [sameAnswer, sameAnswers], last⟩

end Sequence

end RegisterGateway
