import RegisterGateway.Proofs.Register.Cells
import RegisterGateway.Register.Registry

/-!
# Registries after one write

A successful write of any entrance is one write to one memory of the registry (`Wrote`). What it
leaves alone follows from that: other memories, other areas and other cells, the gate, and every
size.
-/

namespace RegisterGateway

/-- One registry is another after one write to the memory of a key. -/
def Registry.Wrote (before : Registry) (key : String) (write : AreaWrite) (after : Registry) :
    Prop :=
  ∃ store, before.find? key = some store ∧ store.admits write ∧
    after = before.replace key (store.after write)

/-- A store that accepts cells has been written, and nothing else in its registry. -/
theorem Registry.wrote_of_writeCells {registry : Registry} {key : String}
    {store changed : Store} {mode : WriteMode} {area : Area} {address : UInt16}
    {cells : List area.Cell} (present : registry.find? key = some store)
    (stored : store.writeCells mode area address cells = .ok changed) :
    registry.Wrote key ⟨area, address, cells⟩ (registry.replace key changed) := by
  obtain ⟨-, admitted, rfl⟩ := Store.writeCells_eq_ok_iff.1 stored
  exact ⟨store, present, admitted, rfl⟩

namespace Registry.Wrote

variable {before after : Registry} {key : String} {write : AreaWrite}

/-- The written memory is there before and after. -/
theorem find?_key (wrote : before.Wrote key write after) :
    ∃ store, before.find? key = some store ∧ store.admits write ∧
      after.find? key = some (store.after write) := by
  obtain ⟨store, present, admitted, rfl⟩ := wrote
  refine ⟨store, present, admitted, ?_⟩
  rw [find?_replace, if_pos rfl, present, Option.map_some]

/-- Every other memory is as it was. -/
theorem find?_other (wrote : before.Wrote key write after) {other : String}
    (different : key ≠ other) : after.find? other = before.find? other := by
  obtain ⟨store, -, -, rfl⟩ := wrote
  rw [find?_replace, if_neg different]

/-- No memory has come or gone. -/
theorem keys (wrote : before.Wrote key write after) :
    after.memories.keys = before.memories.keys := by
  obtain ⟨store, -, -, rfl⟩ := wrote
  exact Table.keys_replace before.memories key _

theorem defaultKey (wrote : before.Wrote key write after) :
    after.defaultKey = before.defaultKey := by
  obtain ⟨store, -, -, rfl⟩ := wrote
  rfl

end Registry.Wrote

/-- One store is another with some values put over one range of one area, and nothing else,
unless they open its gate. -/
structure Store.DiffersBy (write : AreaWrite) (before after : Store) : Prop where
  /-- The range has one or more cells, which all exist. -/
  admitted : before.admits write
  /-- The cells of the range hold the values. -/
  written : ∀ offset, offset < write.values.length →
    (after.cells write.area)[write.address.toNat + offset]? = write.values[offset]?
  /-- Cells before and behind the range are as they were. -/
  beside : ∀ index, index < write.address.toNat ∨
      write.address.toNat + write.values.length ≤ index →
    (after.cells write.area)[index]? = (before.cells write.area)[index]?
  /-- Other areas are as they were. -/
  elsewhere : ∀ area, area ≠ write.area → after.cells area = before.cells area
  size : ∀ area, after.size area = before.size area
  gate : after.gate = before.gate
  /-- The run state changes only from before the run to the run, and only if the cell of the
  gate is set to true. -/
  state : after.state = before.state ∨
    before.state = .preRun ∧ after.state = .run ∧ ∃ gate, before.gate = some gate ∧
      write.valueAt? .discreteInputs gate.toNat = some true

/-- A write that fits makes exactly the difference that it asks for. -/
theorem Store.differsBy_after {store : Store} {write : AreaWrite}
    (admitted : store.admits write) : Store.DiffersBy write store (store.after write) where
  admitted := admitted
  written offset inside := by
    rw [getElem?_cells_after admitted, AreaWrite.valueAt?_self, if_pos (Nat.le_add_right _ _),
      Nat.add_sub_cancel_left, List.getElem?_eq_getElem inside, Option.some_or]
  beside index outside := by
    have uncovered : write.valueAt? write.area index = none := by
      rw [← Option.not_isSome_iff_eq_none, AreaWrite.valueAt?_isSome_iff]
      omega
    rw [getElem?_cells_after admitted, uncovered, Option.none_or]
  elsewhere area different := cells_after_of_ne store write (Ne.symm different)
  size := size_after admitted
  gate := gate_after store write
  state := by
    rw [state_after]
    split
    · rename_i opens
      cases state : store.state with
      | preRun => exact .inr ⟨rfl, rfl, opens⟩
      | run => exact .inl rfl
    · exact .inl rfl

/-! ## Several writes -/

/-- The store after several writes. -/
def Store.afterAll (store : Store) (writes : List AreaWrite) : Store :=
  writes.foldl Store.after store

/-- Of writes to several memories, those to the memory of one key. -/
def writesTo (key : String) (writes : List (String × AreaWrite)) : List AreaWrite :=
  writes.filterMap fun entry => if entry.1 = key then some entry.2 else none

theorem writesTo_append (key : String) (earlier later : List (String × AreaWrite)) :
    writesTo key (earlier ++ later) = writesTo key earlier ++ writesTo key later :=
  List.filterMap_append

theorem mem_writesTo_iff {key : String} {writes : List (String × AreaWrite)}
    {write : AreaWrite} : write ∈ writesTo key writes ↔ (key, write) ∈ writes := by
  simp [writesTo, List.mem_filterMap]

namespace Store

@[simp] theorem afterAll_nil (store : Store) : store.afterAll [] = store := rfl

@[simp] theorem afterAll_cons (store : Store) (write : AreaWrite) (rest : List AreaWrite) :
    store.afterAll (write :: rest) = (store.after write).afterAll rest := rfl

theorem afterAll_append (store : Store) (earlier later : List AreaWrite) :
    store.afterAll (earlier ++ later) = (store.afterAll earlier).afterAll later :=
  List.foldl_append

/-- Which writes fit depends on the sizes alone, and these stay. -/
theorem admits_after_iff {store : Store} {write : AreaWrite} (admitted : store.admits write)
    (next : AreaWrite) : (store.after write).admits next ↔ store.admits next := by
  simp only [admits, inRange_iff, size_after admitted]

theorem admits_afterAll_iff {store : Store} {writes : List AreaWrite}
    (admitted : ∀ write ∈ writes, store.admits write) (next : AreaWrite) :
    (store.afterAll writes).admits next ↔ store.admits next := by
  induction writes generalizing store with
  | nil => rfl
  | cons write rest ih =>
      obtain ⟨first, others⟩ := List.forall_mem_cons.1 admitted
      rw [← admits_after_iff first next]
      exact ih fun other member => (admits_after_iff first other).2 (others other member)

/-- A store that runs goes on running. -/
theorem state_afterAll_of_run {store : Store} (runs : store.state = .run)
    (writes : List AreaWrite) : (store.afterAll writes).state = .run := by
  induction writes generalizing store with
  | nil => exact runs
  | cons write rest ih => exact ih (state_after_of_run runs write)

@[simp] theorem gate_afterAll (store : Store) (writes : List AreaWrite) :
    (store.afterAll writes).gate = store.gate := by
  induction writes generalizing store with
  | nil => rfl
  | cons write rest ih => rw [afterAll_cons, ih, gate_after]

/-- A store that is sealed stays sealed. -/
theorem isSealed_afterAll {store : Store} (closed : store.isSealed = true)
    (writes : List AreaWrite) : (store.afterAll writes).isSealed = true := by
  simp only [isSealed, Bool.and_eq_true, decide_eq_true_eq, gate_afterAll] at closed ⊢
  exact ⟨closed.1, state_afterAll_of_run closed.2 writes⟩

end Store

/-- One registry is another after some writes: every memory has received those to its key, in
their order, and each of them fits. -/
structure Registry.Follows (before : Registry) (writes : List (String × AreaWrite))
    (after : Registry) : Prop where
  memory : ∀ key, after.find? key = (before.find? key).map (·.afterAll (writesTo key writes))
  admitted : ∀ key store, before.find? key = some store →
    ∀ write ∈ writesTo key writes, store.admits write

namespace Registry.Follows

variable {before middle after : Registry}

theorem unchanged (registry : Registry) : registry.Follows [] registry where
  memory key := by
    cases registry.find? key <;> rfl
  admitted := nofun

theorem ofWrote {key : String} {write : AreaWrite} (wrote : before.Wrote key write after) :
    before.Follows [(key, write)] after where
  memory other := by
    by_cases same : key = other
    · subst same
      obtain ⟨store, present, -, replaced⟩ := wrote.find?_key
      rw [present, replaced]
      simp [writesTo]
    · rw [wrote.find?_other same]
      cases before.find? other <;> simp [writesTo, same]
  admitted other store present made member := by
    obtain ⟨rfl, rfl⟩ : other = key ∧ made = write := by
      simpa [mem_writesTo_iff] using member
    obtain ⟨found, presentToo, admitted, -⟩ := wrote.find?_key
    rw [present] at presentToo
    cases presentToo
    exact admitted

/-- Writes after writes. -/
theorem append {earlier later : List (String × AreaWrite)}
    (first : before.Follows earlier middle) (second : middle.Follows later after) :
    before.Follows (earlier ++ later) after where
  memory key := by
    rw [second.memory, first.memory, Option.map_map]
    cases before.find? key with
    | none => rfl
    | some store => simp [writesTo_append, Store.afterAll_append]
  admitted key store present write member := by
    rw [writesTo_append, List.mem_append] at member
    rcases member with early | late
    · exact first.admitted key store present write early
    · have received : middle.find? key = some (store.afterAll (writesTo key earlier)) := by
        rw [first.memory, present, Option.map_some]
      rw [← Store.admits_afterAll_iff (first.admitted key store present)]
      exact second.admitted key _ received write late

end Registry.Follows

end RegisterGateway
