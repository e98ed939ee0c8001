import RegisterGateway.Proofs.Gate

/-!
# Requests with other operations between their looks

A Modbus request looks at the registry twice: first at the state of the memory that it reaches,
and then, if that memory runs, at its cells. Whatever happens between the two looks, the request
is answered and takes effect as if at one moment. A request that is turned down at the first look
is moved there; any other is moved to the second look, where the first look would have found the
same, because a memory that runs goes on running.
-/

namespace RegisterGateway

section States

variable {registry : Registry} {key : String} {store : Store}

/-- A memory that runs goes on running, whatever operations follow. -/
theorem Registry.find?_afterRun_of_runs (present : registry.find? key = some store)
    (runs : store.state = .run) (operations : List Operation) :
    ∃ later, (registry.afterRun operations).find? key = some later ∧ later.state = .run := by
  have memory := (follows_afterRun operations registry).memory key
  rw [present, Option.map_some] at memory
  exact ⟨_, memory, Store.state_afterAll_of_run runs _⟩

/-- A memory that waits after some operations has waited all the time. -/
theorem Registry.find?_of_afterRun_waits {operations : List Operation}
    (present : (registry.afterRun operations).find? key = some store)
    (waits : store.state = .preRun) :
    ∃ earlier, registry.find? key = some earlier ∧ earlier.state = .preRun := by
  have memory := (follows_afterRun operations registry).memory key
  rw [present] at memory
  obtain ⟨earlier, found, -⟩ := Option.map_eq_some_iff.1 memory.symm
  refine ⟨earlier, found, ?_⟩
  cases state : earlier.state with
  | preRun => rfl
  | run =>
      obtain ⟨later, presentToo, runs⟩ := find?_afterRun_of_runs found state operations
      rw [present] at presentToo
      cases presentToo
      rw [waits] at runs
      contradiction

end States

namespace Modbus

variable {reach : Reach} {unit : UInt8} {request : List UInt8} {registry : Registry}

/-! ## The first look -/

/-- A request is admitted if its function is served and the memory that it reaches runs. -/
theorem begin_eq_admitted_iff {key : String} {function : Function} {data : List UInt8} :
    begin reach unit request registry = .admitted key function data ↔
      request = function.code :: data ∧ reach unit function.code = some key ∧
        ∃ store, registry.find? key = some store ∧ store.state = .run := by
  constructor
  · intro admitted
    unfold begin at admitted
    split at admitted
    · contradiction
    · rename_i code data
      split at admitted
      · contradiction
      · rename_i reachedKey store found
        split at admitted
        · contradiction
        · rename_i begun
          split at admitted
          · contradiction
          · rename_i served known
            cases admitted
            obtain ⟨reached, present⟩ := Reach.find?_eq_some_iff.1 found
            rw [Function.ofCode?_eq_some_iff.1 known]
            exact ⟨rfl, reached, store, present,
              Store.isPreRun_eq_false_iff.1 (Bool.eq_false_iff.2 begun)⟩
  · rintro ⟨rfl, reached, store, present, runs⟩
    have found : reach.find? registry unit function.code = some (key, store) :=
      Reach.find?_eq_some_iff.2 ⟨reached, present⟩
    have begun : store.isPreRun = false := Store.isPreRun_eq_false_iff.2 runs
    simp only [begin, found, begun, Function.ofCode?_code]
    rfl

/-- A memory that waits turns every request down at the first look. -/
theorem begin_of_waits {code : UInt8} {key : String} {store : Store}
    (reached : reach unit code = some key) (present : registry.find? key = some store)
    (waits : store.state = .preRun) (data : List UInt8) :
    begin reach unit (code :: data) registry =
      .answered (exceptionResponse code .illegalFunction) := by
  have found : reach.find? registry unit code = some (key, store) :=
    Reach.find?_eq_some_iff.2 ⟨reached, present⟩
  have waiting : store.isPreRun = true := by
    simp [Store.isPreRun, waits]
  simp only [begin, found, waiting]
  rfl

/-- What has been admitted at the first look would be admitted at any later one. -/
theorem begin_afterRun_of_admitted {key : String} {function : Function} {data : List UInt8}
    (admitted : begin reach unit request registry = .admitted key function data)
    (others : List Operation) :
    begin reach unit request (registry.afterRun others) = .admitted key function data := by
  obtain ⟨sent, reached, store, present, runs⟩ := begin_eq_admitted_iff.1 admitted
  obtain ⟨later, presentLater, runsLater⟩ :=
    Registry.find?_afterRun_of_runs present runs others
  exact begin_eq_admitted_iff.2 ⟨sent, reached, later, presentLater, runsLater⟩

/-! ## The second look -/

/-- A request changes at most the memory that it has been admitted to. -/
theorem find?_finish_of_ne {pending : Pending} {key : String}
    (elsewhere : ∀ reached function data, pending = .admitted reached function data →
      reached ≠ key) (registry : Registry) :
    (finish pending registry).2.find? key = registry.find? key := by
  cases pending with
  | answered response => rfl
  | admitted reached function data =>
      simp only [finish]
      split
      · rfl
      · split
        · rw [Registry.find?_replace, if_neg (elsewhere reached function data rfl)]
        · rfl

/-! ## Other operations in between -/

/-- What comes of a request and of the operations between its two looks. -/
structure Interleaving where
  response : List UInt8
  answers : List Answer
  last : Registry

/-- Answers a request whose first look comes before some other operations and whose second look
comes after them. -/
def around (reach : Reach) (unit : UInt8) (request : List UInt8) (others : List Operation)
    (registry : Registry) : Interleaving :=
  let (answers, middle) := sequence Operation.perform others registry
  let (response, last) := finish (begin reach unit request registry) middle
  ⟨response, answers, last⟩

section Around

variable {others : List Operation}

theorem around_of_answered {response : List UInt8}
    (turnedDown : begin reach unit request registry = .answered response) :
    around reach unit request others registry =
      ⟨response, (sequence Operation.perform others registry).1, registry.afterRun others⟩ := by
  simp only [around, turnedDown, finish]
  rfl

/-- A request comes as a whole before the other operations, or as a whole after them. -/
theorem around_is_serial (reach : Reach) (unit : UInt8) (request : List UInt8)
    (others : List Operation) (registry : Registry) :
    sequence Operation.perform (.modbus reach unit request :: others) registry =
        (.modbus (around reach unit request others registry).response ::
            (around reach unit request others registry).answers,
          (around reach unit request others registry).last) ∨
      sequence Operation.perform (others ++ [.modbus reach unit request]) registry =
        ((around reach unit request others registry).answers ++
            [.modbus (around reach unit request others registry).response],
          (around reach unit request others registry).last) := by
  cases looked : begin reach unit request registry with
  | answered response =>
      left
      have first : answerBy reach unit request registry = (response, registry) := by
        simp only [answerBy, looked, finish]
      rw [around_of_answered looked, sequence_cons]
      simp only [Operation.perform, first]
      rfl
  | admitted key function data =>
      right
      have lookedAgain := begin_afterRun_of_admitted looked others
      simp only [Registry.afterRun] at lookedAgain
      rw [sequence_append, sequence_cons]
      simp only [Operation.perform, answerBy, lookedAgain, around, looked]
      rfl

/-- A memory that waits at either look turns a request that reaches it down, and nothing comes of
the request. -/
theorem around_of_waits {code : UInt8} {key : String} {store : Store}
    (reached : reach unit code = some key)
    (present : registry.find? key = some store ∨
      (registry.afterRun others).find? key = some store)
    (waits : store.state = .preRun) (data : List UInt8) :
    (around reach unit (code :: data) others registry).response =
        exceptionResponse code .illegalFunction ∧
      (around reach unit (code :: data) others registry).last = registry.afterRun others := by
  obtain ⟨first, presentFirst, waitsFirst⟩ :
      ∃ first, registry.find? key = some first ∧ first.state = .preRun := by
    rcases present with before | after
    · exact ⟨store, before, waits⟩
    · exact Registry.find?_of_afterRun_waits after waits
  rw [around_of_answered (begin_of_waits reached presentFirst waitsFirst data)]
  exact ⟨rfl, rfl⟩

/-- No request changes a memory that waits at the second look. -/
theorem find?_around_of_waits {key : String} {store : Store}
    (present : (registry.afterRun others).find? key = some store)
    (waits : store.state = .preRun) :
    (around reach unit request others registry).last.find? key = some store := by
  rw [← present]
  refine find?_finish_of_ne (fun reached function data admitted => ?_) (registry.afterRun others)
  rintro rfl
  obtain ⟨-, -, running, presentLater, runs⟩ :=
    begin_eq_admitted_iff.1 (begin_afterRun_of_admitted admitted others)
  rw [present] at presentLater
  cases presentLater
  rw [waits] at runs
  contradiction

end Around

/-- Whatever operations come between the two looks of a request, both might as well be taken at one
moment. A memory that waits at one of the looks turns a request that reaches it down, without a
word on its cells, and no request changes a memory that waits at the second look. -/
theorem request_takes_one_moment (reach : Reach) (unit : UInt8) (request : List UInt8)
    (others : List Operation) (registry : Registry) :
    (sequence Operation.perform (.modbus reach unit request :: others) registry =
          (.modbus (around reach unit request others registry).response ::
              (around reach unit request others registry).answers,
            (around reach unit request others registry).last) ∨
        sequence Operation.perform (others ++ [.modbus reach unit request]) registry =
          ((around reach unit request others registry).answers ++
              [.modbus (around reach unit request others registry).response],
            (around reach unit request others registry).last)) ∧
      (∀ code data key store, request = code :: data → reach unit code = some key →
        registry.find? key = some store ∨ (registry.afterRun others).find? key = some store →
          store.state = .preRun →
            (around reach unit request others registry).response =
                exceptionResponse code .illegalFunction ∧
              (around reach unit request others registry).last = registry.afterRun others) ∧
      ∀ key store, (registry.afterRun others).find? key = some store → store.state = .preRun →
        (around reach unit request others registry).last.find? key = some store := by
  refine ⟨around_is_serial reach unit request others registry, ?_,
    fun key store => find?_around_of_waits⟩
  rintro code data key store rfl reached present waits
  exact around_of_waits reached present waits data

/-- The gate of a memory opens between the looks of a request: the request, which has found the
memory waiting, is turned down although its second look finds the memory running. -/
theorem request_before_gate_turned_down :
    ((waitingRegistry.afterRun [.command ⟨"1", "discrete_inputs", 1, [1], []⟩]).find? "1").map
        Store.state = some .run ∧
      (around (fun _ _ => some "1") 7 [6, 0, 0, 0x12, 0x34]
          [.command ⟨"1", "discrete_inputs", 1, [1], []⟩] waitingRegistry).response =
        [0x86, 1] := by
  obtain ⟨-, turnedDown, -⟩ := request_takes_one_moment (fun _ _ => some "1") 7
    [6, 0, 0, 0x12, 0x34] [.command ⟨"1", "discrete_inputs", 1, [1], []⟩] waitingRegistry
  exact ⟨by decide, (turnedDown 6 [0, 0, 0x12, 0x34] "1" _ rfl rfl (.inl rfl) rfl).1⟩

end Modbus

end RegisterGateway
