import RegisterGateway.Proofs.Gate

/-!
# Commands with other operations between their looks

A command looks at the registry twice: it is checked, and then its write is made unless its memory
has been sealed in between. Whatever happens between the two looks, the command is carried out as
if at one moment, that of its check or that of its write. A gate opens once and for all, which is
why the check may be taken as made at the moment of the write.
-/

namespace RegisterGateway

/-- A memory that is sealed stays sealed, whatever operations follow. -/
theorem Registry.find?_afterRun_of_isSealed {registry : Registry} {key : String} {store : Store}
    (present : registry.find? key = some store) (closed : store.isSealed = true)
    (operations : List Operation) :
    ∃ later, (registry.afterRun operations).find? key = some later ∧ later.isSealed = true := by
  have memory := (follows_afterRun operations registry).memory key
  rw [present, Option.map_some] at memory
  exact ⟨_, memory, Store.isSealed_afterAll closed _⟩

namespace Ingest

/-! ## The two looks -/

section Looks

variable {command : Command} {registry : Registry} {pending : PendingWrite} {store : Store}

/-- What a check has found when it succeeds. -/
structure Command.Asks (command : Command) (pending : PendingWrite) : Prop where
  key : pending.key = command.memory
  area : areaOf? command.area = some pending.area
  oneList : command.bools.isEmpty ≠ command.values.isEmpty
  address : pending.address = command.address
  values : command.cellsFor pending.area = .ok pending.values

/-- A command passes its check if it asks for a write and its memory is there and not sealed. -/
theorem check_eq (asks : command.Asks pending)
    (present : registry.find? command.memory = some store) :
    command.check registry =
      if pending.area.isOperator && store.isSealed then .error (.denied pending.area)
      else .ok pending := by
  obtain ⟨key, area, address, values⟩ := pending
  obtain ⟨rfl, named, oneList, rfl, carried⟩ := asks
  simp only [Command.check, present, named, if_neg oneList, carried]
  rfl

theorem asks_of_check (checked : command.check registry = .ok pending) : command.Asks pending := by
  unfold Command.check at checked
  split at checked
  · contradiction
  · split at checked
    · contradiction
    · rename_i area named
      split at checked
      · contradiction
      · rename_i oneList
        split at checked
        · contradiction
        · obtain ⟨values, carried, rfl⟩ := map_eq_ok_iff.1 checked
          exact ⟨rfl, named, oneList, rfl, carried⟩

theorem cellsFor_ne_memory (area : Area) (error : StoreError) :
    command.cellsFor area ≠ .error (.memory error) := by
  intro refused
  cases area with
  | coils | discreteInputs =>
      simp only [Command.cellsFor] at refused
      split at refused
      · cases refused
      · obtain ⟨value, -, unread⟩ := exists_error_of_mapM refused
        unfold bit at unread
        split at unread
        · cases unread
        · split at unread <;> cases unread
  | holdingRegisters | inputRegisters =>
      simp only [Command.cellsFor] at refused
      split at refused <;> cases refused

/-- No check refuses a command with the error of a store. -/
theorem check_ne_memory (error : StoreError) : command.check registry ≠ .error (.memory error) := by
  intro refused
  unfold Command.check at refused
  split at refused
  · cases refused
  · split at refused
    · cases refused
    · split at refused
      · cases refused
      · split at refused
        · cases refused
        · exact cellsFor_ne_memory _ error (map_eq_error_iff.1 refused)

/-- What becomes of a write that a command has been found to ask for. -/
theorem commit_eq (present : registry.find? pending.key = some store) :
    pending.commit registry =
      if pending.area.isOperator && store.isSealed then .error (.denied pending.area)
      else if store.inRange pending.area pending.address pending.values.length then
        .ok (pending.values.length, registry.replace pending.key
          (store.after ⟨pending.area, pending.address, pending.values⟩))
      else
        .error (.memory (.outOfRange pending.area pending.address pending.values.length
          (store.size pending.area))) := by
  have refuses : store.refusesAsSealed .unlessSealed pending.area =
      (pending.area.isOperator && store.isSealed) := rfl
  simp only [PendingWrite.commit, present, Store.writeCells, refuses]
  by_cases closed : (pending.area.isOperator && store.isSealed) = true
  · simp only [if_pos closed]
    rfl
  · by_cases inside :
        store.inRange pending.area pending.address pending.values.length = true
    · simp only [if_neg closed, if_pos inside]
      rfl
    · simp only [if_neg closed, if_neg inside]
      rfl

/-- A write is made only to an area that is open. -/
theorem wrote_of_commit {written : Nat} {after : Registry}
    (committed : pending.commit registry = .ok (written, after)) :
    ∃ store, registry.find? pending.key = some store ∧
      (pending.area.isOperator && store.isSealed) = false ∧
      registry.Wrote pending.key ⟨pending.area, pending.address, pending.values⟩ after := by
  cases present : registry.find? pending.key with
  | none => simp [PendingWrite.commit, present] at committed
  | some store =>
      rw [commit_eq present] at committed
      split at committed
      · contradiction
      · rename_i isOpen
        split at committed
        · rename_i inside
          cases committed
          exact ⟨store, rfl, Bool.eq_false_iff.2 isOpen, store, present, inside, rfl⟩
        · contradiction

/-- A check that has succeeded may be taken as made again at the moment of the write. -/
theorem ingest_of_check (checked : command.check registry = .ok pending)
    (others : List Operation) :
    command.ingest (registry.afterRun others) = pending.commit (registry.afterRun others) := by
  have asks := asks_of_check checked
  obtain ⟨store, present⟩ :
      ∃ store, (registry.afterRun others).find? command.memory = some store := by
    rw [(follows_afterRun others registry).memory]
    cases found : registry.find? command.memory with
    | none => simp [Command.check, found] at checked
    | some store => exact ⟨_, rfl⟩
  have checkedAgain := check_eq asks present
  rw [Command.ingest]
  by_cases closed : (pending.area.isOperator && store.isSealed) = true
  · rw [checkedAgain, commit_eq (asks.key ▸ present), if_pos closed, if_pos closed]
    rfl
  · rw [checkedAgain, if_neg closed]
    rfl

end Looks

/-! ## Other operations in between -/

/-- What comes of a command and of the operations between its two looks. -/
structure Interleaving where
  result : Except IngestError Nat
  answers : List Answer
  last : Registry

/-- Carries out a command that is checked before some other operations and whose write, if it asks
for one, is made after them. -/
def Command.around (command : Command) (others : List Operation) (registry : Registry) :
    Interleaving :=
  let (answers, middle) := sequence Operation.perform others registry
  match command.check registry with
  | .error error => ⟨.error error, answers, middle⟩
  | .ok pending =>
    match pending.commit middle with
    | .ok (written, after) => ⟨.ok written, answers, after⟩
    | .error error => ⟨.error error, answers, middle⟩

section Around

variable {command : Command} {others : List Operation} {registry : Registry}

theorem around_of_error {error : IngestError} (checked : command.check registry = .error error) :
    command.around others registry =
      ⟨.error error, (sequence Operation.perform others registry).1, registry.afterRun others⟩ := by
  simp only [Command.around, checked]
  rfl

theorem around_of_check {pending : PendingWrite} (checked : command.check registry = .ok pending) :
    command.around others registry =
      ⟨(pending.commit (registry.afterRun others)).map Prod.fst,
        (sequence Operation.perform others registry).1,
        match pending.commit (registry.afterRun others) with
        | .ok (_, after) => after
        | .error _ => registry.afterRun others⟩ := by
  simp only [Command.around, checked, Registry.afterRun]
  cases pending.commit (sequence Operation.perform others registry).2 <;> rfl

/-- A command comes as a whole before the other operations, or as a whole after them. -/
theorem around_is_serial (command : Command) (others : List Operation) (registry : Registry) :
    sequence Operation.perform (.command command :: others) registry =
        (.command (command.around others registry).result ::
            (command.around others registry).answers,
          (command.around others registry).last) ∨
      sequence Operation.perform (others ++ [.command command]) registry =
        ((command.around others registry).answers ++
            [.command (command.around others registry).result],
          (command.around others registry).last) := by
  cases checked : command.check registry with
  | error error =>
      left
      have refused : command.ingest registry = .error error := by
        rw [Command.ingest, checked]
        rfl
      rw [around_of_error checked, sequence_cons]
      simp only [Operation.perform, refused]
      rfl
  | ok pending =>
      right
      have carriedOut := ingest_of_check checked others
      rw [around_of_check checked, sequence_append, sequence_cons]
      simp only [Registry.afterRun] at carriedOut ⊢
      simp only [Operation.perform, carriedOut]
      cases pending.commit (sequence Operation.perform others registry).2 <;> rfl

/-- The operator areas of a memory that is sealed when the write is made stay as they are. -/
theorem around_keeps_sealed {key : String} {store : Store}
    (present : (registry.afterRun others).find? key = some store) (closed : store.isSealed = true)
    (command : Command) :
    ∃ after, (command.around others registry).last.find? key = some after ∧
      after.coils = store.coils ∧ after.holdingRegisters = store.holdingRegisters := by
  cases checked : command.check registry with
  | error error =>
      rw [around_of_error checked]
      exact ⟨store, present, rfl, rfl⟩
  | ok pending =>
      rw [around_of_check checked]
      cases committed : pending.commit (registry.afterRun others) with
      | error error => exact ⟨store, present, rfl, rfl⟩
      | ok made =>
          obtain ⟨written, after⟩ := made
          obtain ⟨found, presentToo, isOpen, wrote⟩ := wrote_of_commit committed
          by_cases same : pending.key = key
          · subst same
            rw [present] at presentToo
            cases presentToo
            obtain ⟨_, presentAgain, -, left⟩ := wrote.find?_key
            rw [present] at presentAgain
            cases presentAgain
            rw [closed, Bool.and_true] at isOpen
            exact ⟨_, left, Store.operator_after isOpen store⟩
          · exact ⟨store, (wrote.find?_other same).trans present, rfl, rfl⟩

/-- A command for an area of the operator that is closed when its write is made is denied. -/
theorem around_denied {pending : PendingWrite} {store : Store} (asks : command.Asks pending)
    (operator : pending.area.isOperator = true)
    (present : (registry.afterRun others).find? command.memory = some store)
    (closed : store.isSealed = true) :
    (command.around others registry).result = .error (.denied pending.area) := by
  obtain ⟨before, found⟩ : ∃ before, registry.find? command.memory = some before := by
    rw [(follows_afterRun others registry).memory] at present
    obtain ⟨before, found, -⟩ := Option.map_eq_some_iff.1 present
    exact ⟨before, found⟩
  have checked := check_eq asks found
  rw [operator, Bool.true_and] at checked
  by_cases early : before.isSealed = true
  · rw [if_pos early] at checked
    rw [around_of_error checked]
  · rw [if_neg early] at checked
    rw [around_of_check checked, commit_eq (asks.key ▸ present), operator, closed]
    rfl

/-- The only error of a store with which a command is refused is that of its range. -/
theorem range_of_around_error {error : StoreError}
    (refused : (command.around others registry).result = .error (.memory error)) :
    ∃ area address count size, error = .outOfRange area address count size := by
  cases checked : command.check registry with
  | error reason =>
      rw [around_of_error checked] at refused
      cases refused
      exact absurd checked (check_ne_memory error)
  | ok pending =>
      rw [around_of_check checked] at refused
      have failed := map_eq_error_iff.1 refused
      cases present : (registry.afterRun others).find? pending.key with
      | none => simp [PendingWrite.commit, present] at failed
      | some store =>
          rw [commit_eq present] at failed
          split at failed
          · cases failed
          · split at failed
            · cases failed
            · cases failed
              exact ⟨_, _, _, _, rfl⟩

end Around

/-- Whatever operations come between the check and the write of a command, both might as well be
made at one moment. Once a memory is sealed, no command changes its operator areas any more, whether
its check came before or after; a command for one of them that is in order is denied, and no command
is ever refused with the error of a store that says anything else than a range. -/
theorem gate_never_slips_between (command : Command) (others : List Operation)
    (registry : Registry) :
    (sequence Operation.perform (.command command :: others) registry =
          (.command (command.around others registry).result ::
              (command.around others registry).answers,
            (command.around others registry).last) ∨
        sequence Operation.perform (others ++ [.command command]) registry =
          ((command.around others registry).answers ++
              [.command (command.around others registry).result],
            (command.around others registry).last)) ∧
      (∀ earlier later key sealedStore, others = earlier ++ later →
        (registry.afterRun earlier).find? key = some sealedStore → sealedStore.isSealed = true →
          ∃ before after, (registry.afterRun others).find? key = some before ∧
            (command.around others registry).last.find? key = some after ∧
            after.coils = before.coils ∧ after.holdingRegisters = before.holdingRegisters ∧
            ∀ pending, command.Asks pending → pending.area.isOperator = true →
              command.memory = key →
                (command.around others registry).result = .error (.denied pending.area)) ∧
      ∀ error, (command.around others registry).result = .error (.memory error) →
        ∃ area address count size, error = .outOfRange area address count size := by
  refine ⟨around_is_serial command others registry, ?_, fun error => range_of_around_error⟩
  rintro earlier later key sealedStore rfl present closed
  obtain ⟨before, found, stillClosed⟩ :=
    Registry.find?_afterRun_of_isSealed present closed later
  rw [← Registry.afterRun_append] at found
  obtain ⟨after, left, coils, registers⟩ := around_keeps_sealed found stillClosed command
  refine ⟨before, after, found, left, coils, registers, ?_⟩
  rintro pending asks operator rfl
  exact around_denied asks operator found stillClosed

/-- A command passes its check, the gate opens, and its write is denied. -/
theorem write_behind_gate_denied :
    (Command.check ⟨"1", "coils", 0, [1], []⟩ waitingRegistry).isOk = true ∧
      (Command.around ⟨"1", "coils", 0, [1], []⟩
          [.command ⟨"1", "discrete_inputs", 1, [1], []⟩] waitingRegistry).result =
        .error (.denied .coils) := by
  refine ⟨by decide, ?_⟩
  obtain ⟨-, closes, -⟩ := gate_never_slips_between ⟨"1", "coils", 0, [1], []⟩
    [.command ⟨"1", "discrete_inputs", 1, [1], []⟩] waitingRegistry
  obtain ⟨_, _, -, -, -, -, denied⟩ := closes _ [] "1" _ (List.append_nil _).symm rfl (by decide)
  exact denied ⟨"1", .coils, 0, [true]⟩ ⟨rfl, by decide, by decide, rfl, rfl⟩ rfl rfl

end Ingest

end RegisterGateway
