import RegisterGateway.Proofs.Json.Lexemes

/-!
# Texts are read as the values that they spell

The tokens of a value lead from wherever a value is wanted to where it is complete, by induction
over the value; and bytes that spell tokens are read as far as these tokens lead, whatever white
space stands between them. So every text of a value is read as this value, among them the one that
is written for it.
-/

namespace RegisterGateway.Json

/-! ## Tokens one after the other -/

/-- The state behind some tokens. -/
def State.run (state : State) (tokens : List Token) : Option State :=
  tokens.foldlM State.step state

theorem State.run_cons {state next : State} {token : Token} (taken : state.step token = some next)
    (tokens : List Token) : state.run (token :: tokens) = next.run tokens := by
  rw [State.run, List.foldlM_cons, taken]
  rfl

theorem State.exists_of_run_cons {state last : State} {token : Token} {tokens : List Token}
    (run : state.run (token :: tokens) = some last) :
    ∃ next, state.step token = some next ∧ next.run tokens = some last :=
  Option.bind_eq_some_iff.1 run

/-- A value begins in an array as anywhere else. -/
theorem State.run_wantsElementOrClose (value : Value) (stack : List Open) (later : List Token) :
    (State.wantsElementOrClose stack).run (value.tokens ++ later) =
      (State.wantsValue (.array [] :: stack)).run (value.tokens ++ later) := by
  match value with
  | .null | .bool _ | .integer _ | .decimal | .text _ => rfl
  | .array [] | .array (_ :: _) | .object [] | .object (_ :: _) => rw [Value.tokens]; rfl

mutual

/-- The tokens of a value complete it, wherever it is wanted. -/
theorem Value.run_tokens (value : Value) (stack : List Open) (later : List Token) :
    (State.wantsValue stack).run (value.tokens ++ later) =
      (State.complete value stack).run later := by
  match value with
  | .null | .bool _ | .integer _ | .decimal | .text _ => rfl
  | .array [] | .object [] => rw [Value.tokens]; rfl
  | .array (first :: more) =>
      rw [Value.tokens, List.append_assoc, List.cons_append, List.cons_append, List.append_assoc,
        State.run_cons rfl, State.run_wantsElementOrClose first stack,
        first.run_tokens (.array [] :: stack)]
      exact Value.run_elementTokens more first [] stack later
  | .object ((name, first) :: more) =>
      simp only [Value.tokens, List.cons_append, List.append_assoc]
      rw [State.run_cons rfl, State.run_cons rfl, State.run_cons rfl,
        first.run_tokens (.object [] name :: stack)]
      exact Value.run_memberTokens more name first [] stack later

/-- The elements behind a complete one are taken until the array is closed. -/
theorem Value.run_elementTokens (more : List Value) (value : Value) (reversed : List Value)
    (stack : List Open) (later : List Token) :
    (State.complete value (.array reversed :: stack)).run
        (Value.elementTokens more ++ ([Token.closeArray] ++ later)) =
      (State.complete (.array ((value :: reversed).reverse ++ more)) stack).run later := by
  match more with
  | [] =>
      rw [Value.elementTokens, List.append_nil]
      exact State.run_cons rfl later
  | next :: more =>
      simp only [Value.elementTokens, List.cons_append, List.append_assoc]
      rw [State.run_cons rfl, next.run_tokens (.array (value :: reversed) :: stack)]
      refine Eq.trans (Value.run_elementTokens more next (value :: reversed) stack later) ?_
      rw [List.reverse_cons, List.append_assoc, List.singleton_append]

/-- The members behind a complete one are taken until the object is closed. -/
theorem Value.run_memberTokens (more : List (Option String × Value)) (name : Option String)
    (value : Value) (reversed : List (Option String × Value)) (stack : List Open)
    (later : List Token) :
    (State.complete value (.object reversed name :: stack)).run
        (Value.memberTokens more ++ ([Token.closeObject] ++ later)) =
      (State.complete (.object (((name, value) :: reversed).reverse ++ more)) stack).run later := by
  match more with
  | [] =>
      rw [Value.memberTokens, List.append_nil]
      exact State.run_cons rfl later
  | (other, next) :: more =>
      simp only [Value.memberTokens, List.cons_append, List.append_assoc]
      rw [State.run_cons rfl, State.run_cons rfl, State.run_cons rfl,
        next.run_tokens (.object ((name, value) :: reversed) other :: stack)]
      refine Eq.trans
        (Value.run_memberTokens more other next ((name, value) :: reversed) stack later) ?_
      rw [List.reverse_cons, List.append_assoc, List.singleton_append]

end

/-! ## Bytes behind tokens -/

section Behind

variable {rest : List UInt8}

theorem isBlankByte_of_mem {byte : UInt8} (blank : byte ∈ [0x20, 0x09, 0x0A, 0x0D]) :
    isBlankByte byte = true := by
  simp only [List.mem_cons, List.not_mem_nil, or_false] at blank
  rcases blank with rfl | rfl | rfl | rfl <;> rfl

/-- White space ends a number. -/
theorem endsNumber_append {space : List UInt8} (isSpace : IsSpace space) (ends : EndsNumber rest) :
    EndsNumber (space ++ rest) := by
  cases space with
  | nil => exact ends
  | cons byte later =>
      have blank := isSpace byte (List.mem_cons_self ..)
      simp only [List.mem_cons, List.not_mem_nil, or_false] at blank
      rcases blank with rfl | rfl | rfl | rfl <;> rintro other ⟨⟩ <;> decide

/-- Only a comma or a closing bracket is taken behind a complete value. -/
theorem exists_step_complete {value : Value} {stack : List Open} {token : Token} {next : State}
    (taken : (State.complete value stack).step token = some next) :
    token = .comma ∨ token = .closeArray ∨ token = .closeObject := by
  match stack, token with
  | .array _ :: _, .comma | .object _ _ :: _, .comma => exact .inl rfl
  | .array _ :: _, .closeArray => exact .inr (.inl rfl)
  | .object _ _ :: _, .closeObject => exact .inr (.inr rfl)

theorem endsNumber_of_spellsToken {token : Token} {lexeme : List UInt8}
    (closes : token = .comma ∨ token = .closeArray ∨ token = .closeObject)
    (spelled : SpellsToken lexeme token) : EndsNumber (lexeme ++ rest) := by
  cases spelled with
  | comma | closeArray | closeObject =>
      rintro byte ⟨⟩
      decide
  | @number negative hasFraction hasExponent whole _ _ _ _ _ _ _ denotes =>
      have isNumber := isNumber_numberToken negative (ofDigitBytes whole) hasFraction hasExponent
      rw [denotes] at isNumber
      rcases closes with rfl | rfl | rfl <;> contradiction
  | _ => simp at closes

/-- Behind a complete value, the white space in front of the next token or that token ends a
number. -/
theorem endsNumber_of_run {value : Value} {stack : List Open} {tokens : List Token} {last : State}
    (run : (State.complete value stack).run tokens = some last) {bytes : List UInt8}
    (spelled : SpellsAll SpellsSpaced bytes tokens) (ends : EndsNumber rest) :
    EndsNumber (bytes ++ rest) := by
  cases spelled with
  | nil => exact ends
  | cons first others =>
      obtain ⟨isSpace, spelled⟩ := first
      obtain ⟨next, taken, -⟩ := State.exists_of_run_cons run
      rw [List.append_assoc, List.append_assoc]
      exact endsNumber_append isSpace
        (endsNumber_of_spellsToken (exists_step_complete taken) spelled)

end Behind

/-! ## Reading -/

/-- A number completes a value. -/
theorem State.exists_complete_of_isNumber {state next : State} {token : Token}
    (isNumber : token.isNumber = true) (taken : state.step token = some next) :
    ∃ value stack, next = .complete value stack := by
  match state, token with
  | .wantsValue stack, .integer value | .wantsElementOrClose stack, .integer value =>
      cases taken
      exact ⟨_, _, rfl⟩
  | .wantsValue stack, .decimal | .wantsElementOrClose stack, .decimal =>
      cases taken
      exact ⟨_, _, rfl⟩
  | .complete _ (.array _ :: _), .integer _ => contradiction

/-- A state that takes a token passes over the white space in front of it. -/
theorem State.read?_space {state next : State} {token : Token}
    (taken : state.step token = some next) {space : List UInt8} (isSpace : IsSpace space)
    (rest : List UInt8) : state.read? (space ++ rest) = state.read? rest := by
  induction space with
  | nil => rfl
  | cons byte later ih =>
      obtain ⟨blank, others⟩ := List.forall_mem_cons.1 isSpace
      rw [List.cons_append, State.read?.eq_def]
      split
      · contradiction
      · contradiction
      · rename_i same
        cases same
        rw [if_pos (isBlankByte_of_mem blank), ih others]

/-- A state that takes a token goes on behind it. -/
theorem State.read?_token {state next : State} {token : Token}
    (taken : state.step token = some next) {lexeme : List UInt8}
    (spelled : SpellsToken lexeme token) {rest : List UInt8}
    (ends : token.isNumber = true → EndsNumber rest) :
    state.read? (lexeme ++ rest) = next.read? rest := by
  obtain ⟨first, later, parts, solid, read⟩ := readAs_of_spellsToken spelled ends
  rw [parts, List.cons_append, State.read?.eq_def]
  split
  · contradiction
  · contradiction
  · rename_i same
    cases same
    rw [if_neg (by rw [solid]; decide)]
    split
    · rename_i failed
      rw [read] at failed
      contradiction
    · rename_i found
      rw [read] at found
      cases found
      simp only [taken]

/-- Bytes that spell tokens are read as far as these lead. -/
theorem State.read?_of_spellsAll {bytes : List UInt8} {tokens : List Token}
    (spelled : SpellsAll SpellsSpaced bytes tokens) {state last : State}
    (run : state.run tokens = some last) {rest : List UInt8} (ends : EndsNumber rest) :
    state.read? (bytes ++ rest) = last.read? rest := by
  induction spelled generalizing state with
  | nil =>
      cases run
      rfl
  | cons first others ih =>
      obtain ⟨isSpace, spelled⟩ := first
      obtain ⟨next, taken, run⟩ := State.exists_of_run_cons run
      rw [List.append_assoc, List.append_assoc, State.read?_space taken isSpace,
        State.read?_token taken spelled, ih run]
      intro isNumber
      obtain ⟨value, stack, rfl⟩ := State.exists_complete_of_isNumber isNumber taken
      exact endsNumber_of_run run others ends

theorem Value.read?_of_spellsAll {bytes : List UInt8} {value : Value}
    (spelled : SpellsAll SpellsSpaced bytes value.tokens) {rest : List UInt8}
    (ends : EndsNumber rest) : Value.read? (bytes ++ rest) = some (value, rest) := by
  have run := value.run_tokens [] []
  rw [List.append_nil] at run
  rw [Value.read?, State.read?_of_spellsAll spelled run ends, State.read?.eq_def]

/-- A text is read as the value that it spells. -/
theorem Value.ofBytes?_of_spells {bytes : List UInt8} {value : Value}
    (spells : Spells bytes value) : Value.ofBytes? bytes = some value := by
  obtain ⟨spelled, isSpace⟩ := spells
  have ends := endsNumber_append isSpace (nofun : EndsNumber [])
  rw [List.append_nil] at ends
  have blank := List.all_eq_true.2 fun byte member => isBlankByte_of_mem (isSpace byte member)
  rw [Value.ofBytes?, Value.read?_of_spellsAll spelled ends]
  simp only [blank, if_true]

/-! ## Written values -/

theorem spellsAll_write (tokens : List Token) :
    SpellsAll SpellsSpaced (tokens.flatMap Token.write) tokens := by
  have spaced (token : Token) : SpellsSpaced token.write token :=
    @SpellsSpaced.intro [] _ _ nofun (spellsToken_write token)
  have spelled := SpellsAll.flatMap spaced tokens
  rwa [List.map_id'] at spelled

/-- What is written for a value spells it. -/
theorem spells_write (value : Value) : Spells value.write value := by
  have spells := @Spells.intro _ [] _ (spellsAll_write value.tokens) nofun
  rwa [List.append_nil] at spells

theorem Value.ofBytes?_write (value : Value) : Value.ofBytes? value.write = some value :=
  Value.ofBytes?_of_spells (spells_write value)

end RegisterGateway.Json
