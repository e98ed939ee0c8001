import RegisterGateway.Proofs.History

/-!
# The gate over whole runs

A memory that is built with a gate waits for its run until some successful write sets the cell of
the gate to true, and a memory that is built without one runs from the start. This is so after
every step of every run, whichever entrances the operations arrive at.
-/

namespace RegisterGateway

/-! ## Ledgers of several writes -/

/-- Writes that all fit go into the ledger one after the other. -/
theorem Ledger.Describes.addAll {ledger : Ledger} {store : Store}
    (describes : ledger.Describes store) {writes : List AreaWrite}
    (admitted : ∀ write ∈ writes, store.admits write) :
    Ledger.Describes { ledger with writes := ledger.writes ++ writes } (store.afterAll writes) := by
  induction writes generalizing ledger store with
  | nil => simpa using describes
  | cons write rest ih =>
      obtain ⟨first, others⟩ := List.forall_mem_cons.1 admitted
      have next := ih (describes.add first)
        fun other member => (Store.admits_after_iff first other).2 (others other member)
      simpa [Ledger.add] using next

/-! ## States and gates -/

/-- What the state of a store has to do with its gate, after the writes that it has received
since it was built. -/
structure Store.FollowsGate (layout : Layout) (gate : Option UInt16) (writes : List AreaWrite)
    (store : Store) : Prop where
  sameGate : store.gate = gate
  ungated : gate = none → store.state = .run
  /-- With a gate the store runs if and only if some write has set the cell of the gate to
  true. -/
  gated : ∀ address, gate = some address →
    (store.state = .run ↔
      ∃ write ∈ writes, write.valueAt? .discreteInputs address.toNat = some true)
  /-- Before the run the cell of the gate, if there is one, holds false. -/
  closed : ∀ address, gate = some address → store.state = .preRun →
    address.toNat < layout.discreteInputs → store.discreteInputs[address.toNat]? = some false
  /-- A gate outside the area never opens. -/
  outside : ∀ address, gate = some address → layout.discreteInputs ≤ address.toNat →
    store.state = .preRun

/-- A store follows its gate from the start on. -/
theorem Store.followsGate_afterAll (layout : Layout) (gate : Option UInt16)
    {writes : List AreaWrite} (admitted : ∀ write ∈ writes, (ofLayout layout gate).admits write) :
    FollowsGate layout gate writes ((ofLayout layout gate).afterAll writes) := by
  have start := Ledger.Describes.initial layout gate
  have describes := start.addAll admitted
  have gated (address : UInt16) (isGate : gate = some address) :
      ((ofLayout layout gate).afterAll writes).state = .run ↔
        ∃ write ∈ writes, write.valueAt? .discreteInputs address.toNat = some true := by
    rw [describes.state]
    simp [Ledger.state, isGate]
  have waits (address : UInt16) (isGate : gate = some address) :
      ((ofLayout layout gate).afterAll writes).state = .preRun ↔
        ∀ write ∈ writes, write.valueAt? .discreteInputs address.toNat ≠ some true := by
    rw [describes.state]
    simp [Ledger.state, isGate]
  refine ⟨describes.gate, ?_, gated, ?_, ?_⟩
  · rintro rfl
    exact describes.state
  · intro address isGate preRun inside
    have unopened := (waits address isGate).1 preRun
    have zero : (lastWritten? writes .discreteInputs address.toNat).getD false = false := by
      cases last : lastWritten? writes .discreteInputs address.toNat with
      | none => rfl
      | some value =>
          obtain ⟨write, member, covered⟩ := exists_of_lastWritten? last
          cases value with
          | true => exact absurd covered (unopened write member)
          | false => rfl
    exact (describes.cell .discreteInputs address.toNat inside).trans (congrArg some zero)
  · intro address isGate outside
    refine (waits address isGate).2 fun write member covered => ?_
    have inside := lt_size_of_valueAt? (admitted write member) covered
    rw [start.size] at inside
    exact Nat.not_lt.2 outside inside

/-! ## Runs -/

/-- Whether every memory of a registry is as it was built: all cells zero, before the run if it
has a gate. -/
def Registry.IsBuilt (registry : Registry) : Prop :=
  ∀ key store, registry.find? key = some store → ∃ layout gate, store = .ofLayout layout gate

/-- The only way in which a step changes the state of a memory: it begins its run, by a successful
write that sets the cell of the gate to true and does not arrive as a Modbus request. -/
structure Operation.BeginsRun (operation : Operation) (registry : Registry) (key : String)
    (store next : Store) : Prop where
  waits : store.state = .preRun
  runs : next.state = .run
  success : (operation.perform registry).1.isSuccess = true
  opens : ∃ write gate, operation.asked? = some (key, write) ∧ write.area = .discreteInputs ∧
    store.gate = some gate ∧ write.valueAt? .discreteInputs gate.toNat = some true
  notModbus : operation.isModbus = false

theorem Operation.beginsRun_of_state_ne {operation : Operation} {registry : Registry}
    {key : String} {store next : Store} (present : registry.find? key = some store)
    (left : (operation.perform registry).2.find? key = some next)
    (changed : next.state ≠ store.state) : operation.BeginsRun registry key store next := by
  have outcome := operation.outcome_perform registry
  generalize performed : operation.perform registry = result at outcome left
  cases outcome with
  | failed | read =>
      rw [present] at left
      cases left
      contradiction
  | @written answer after writtenKey write success writes asked wrote operator =>
      by_cases same : writtenKey = key
      · subst same
        obtain ⟨found, presentToo, admitted, leftToo⟩ := wrote.find?_key
        rw [present] at presentToo
        rw [left] at leftToo
        cases presentToo
        cases leftToo
        rcases (Store.differsBy_after admitted).state with stays | ⟨waits, runs, gate, gated, opens⟩
        · contradiction
        · have inputs := AreaWrite.area_of_valueAt? opens
          have notModbus : operation.isModbus = false := by
            refine Bool.eq_false_iff.2 fun modbus => ?_
            have closed := operator modbus
            rw [inputs] at closed
            contradiction
          exact ⟨waits, runs, by rw [performed, success],
            ⟨write, gate, asked, inputs, gated, opens⟩, notModbus⟩
      · rw [wrote.find?_other same, present] at left
        cases left
        contradiction

/-- After every run from a registry as it was built, the memories are those that were built, and
the state of each is what its gate and the successful writes to it say. A further step changes
the state only by beginning the run, and a memory that runs goes on running. -/
theorem state_follows_gate {registry : Registry} (built : registry.IsBuilt)
    (operations : List Operation) (key : String) :
    (registry.afterRun operations).contains key = registry.contains key ∧
      ∀ store : Store, (registry.afterRun operations).find? key = some store →
        (∃ layout gate, registry.find? key = some (.ofLayout layout gate) ∧
          store.FollowsGate layout gate (writesTo key (history operations registry))) ∧
        (∀ (operation : Operation) (next : Store),
          (operation.perform (registry.afterRun operations)).2.find? key = some next →
            next.state ≠ store.state →
              operation.BeginsRun (registry.afterRun operations) key store next) ∧
        ∀ (later : List Operation) (last : Store),
          (registry.afterRun (operations ++ later)).find? key = some last →
            store.state = .run → last.state = .run := by
  have follows := follows_afterRun operations registry
  have memory := follows.memory key
  refine ⟨?_, fun store found => ⟨?_, ?_, ?_⟩⟩
  · have sameKeys := congrArg Option.isSome memory
    rwa [Option.isSome_map] at sameKeys
  · rw [found] at memory
    obtain ⟨initial, present, rfl⟩ := Option.map_eq_some_iff.1 memory.symm
    obtain ⟨layout, gate, rfl⟩ := built key initial present
    exact ⟨layout, gate, present,
      Store.followsGate_afterAll layout gate (follows.admitted key _ present)⟩
  · intro operation next left changed
    exact Operation.beginsRun_of_state_ne found left changed
  · intro later last present runs
    have laterMemory := (follows_afterRun later (registry.afterRun operations)).memory key
    rw [← Registry.afterRun_append, present, found, Option.map_some] at laterMemory
    rw [Option.some.inj laterMemory]
    exact Store.state_afterAll_of_run runs _

/-- The registry of one memory that waits for the second of its two discrete inputs. -/
def waitingRegistry : Registry :=
  ⟨.ofList [("1", .ofLayout ⟨1, 2, 1, 1⟩ (some 1))], "1"⟩

/-- A Modbus request does not reach the waiting memory, and a command that sets its gate begins
the run. -/
theorem command_begins_run :
    waitingRegistry.IsBuilt ∧ ∃ store next,
      (waitingRegistry.afterRun [.modbus (fun _ _ => some "1") 1 [5, 0, 0, 0xFF, 0]]).find? "1" =
          some store ∧
        store.coils = [false] ∧
        (Operation.perform (.command ⟨"1", "discrete_inputs", 1, [1], []⟩)
          (waitingRegistry.afterRun
            [.modbus (fun _ _ => some "1") 1 [5, 0, 0, 0xFF, 0]])).2.find? "1" = some next ∧
        Operation.BeginsRun (.command ⟨"1", "discrete_inputs", 1, [1], []⟩)
          (waitingRegistry.afterRun [.modbus (fun _ _ => some "1") 1 [5, 0, 0, 0xFF, 0]]) "1"
          store next := by
  have built : waitingRegistry.IsBuilt := by
    intro key store found
    have looked : waitingRegistry.find? key =
        if "1" = key then some (.ofLayout ⟨1, 2, 1, 1⟩ (some 1)) else none :=
      Table.find?_insert .empty "1" key _
    rw [looked] at found
    split at found
    · cases found
      exact ⟨_, _, rfl⟩
    · contradiction
  exact ⟨built, _, _, rfl, rfl, rfl,
    ((state_follows_gate built _ "1").2 _ rfl).2.1 _ _ rfl (by decide)⟩

end RegisterGateway
