import RegisterGateway.Proofs.Register.Writes

/-!
# Ranges that have no cell in common

What is done with a range of cells depends, besides these cells, only on the gate, the run state and
the sizes of a store; stores that agree in all this are alike at the range. A write to other cells
leaves a store alike, unless it begins the run, and two writes that have no cell in common come to
the same in either order.
-/

namespace RegisterGateway

/-- A range of cells of one area. -/
structure CellRange where
  area : Area
  address : UInt16
  count : Nat
  deriving DecidableEq, Repr

/-- Whether a cell lies in a range. -/
def CellRange.Covers (range : CellRange) (area : Area) (index : Nat) : Prop :=
  range.area = area ∧ range.address.toNat ≤ index ∧ index < range.address.toNat + range.count

/-- The range over which a write puts its values. -/
def AreaWrite.range (write : AreaWrite) : CellRange :=
  ⟨write.area, write.address, write.values.length⟩

/-- A write has a value for exactly the cells of its range. -/
theorem AreaWrite.covers_range_iff (write : AreaWrite) (area : Area) (index : Nat) :
    write.range.Covers area index ↔ (write.valueAt? area index).isSome := by
  by_cases same : write.area = area
  · subst same
    rw [valueAt?_isSome_iff]
    simp [CellRange.Covers, range]
  · simp [CellRange.Covers, range, valueAt?_of_ne same, same]

/-- Two writes that have no cell in common. -/
def AreaWrite.Apart (first second : AreaWrite) : Prop :=
  ∀ area index, first.range.Covers area index → ¬ second.range.Covers area index

namespace Store

/-! ## Stores that are alike -/

/-- Two stores are alike at some of their cells: they have the same values there, and the same
gate, run state and sizes. -/
structure AlikeAt (within : Area → Nat → Prop) (first second : Store) : Prop where
  gate : second.gate = first.gate
  state : second.state = first.state
  size : ∀ area, second.size area = first.size area
  cells : ∀ area index, within area index →
    (second.cells area)[index]? = (first.cells area)[index]?

namespace AlikeAt

variable {within : Area → Nat → Prop} {first second : Store}

theorem refl (store : Store) : AlikeAt within store store :=
  ⟨rfl, rfl, fun _ => rfl, fun _ _ _ => rfl⟩

theorem isPreRun_eq (alike : AlikeAt within first second) : second.isPreRun = first.isPreRun := by
  rw [isPreRun, isPreRun, alike.state]

theorem isSealed_eq (alike : AlikeAt within first second) : second.isSealed = first.isSealed := by
  rw [isSealed, isSealed, alike.gate, alike.state]

theorem inRange_eq (alike : AlikeAt within first second) (area : Area) (address : UInt16)
    (count : Nat) : second.inRange area address count = first.inRange area address count := by
  rw [inRange, inRange, alike.size]

/-- Alike stores are read alike where they are looked at. -/
theorem readCells_eq (alike : AlikeAt within first second) {area : Area} {address : UInt16}
    {count : Nat} (looked : ∀ index, CellRange.Covers ⟨area, address, count⟩ area index →
      within area index) :
    second.readCells area address count = first.readCells area address count := by
  have same : ((second.cells area).drop address.toNat).take count =
      ((first.cells area).drop address.toNat).take count := by
    apply List.ext_getElem?
    intro offset
    simp only [List.getElem?_take, List.getElem?_drop]
    by_cases inside : offset < count
    · rw [if_pos inside, if_pos inside]
      exact alike.cells area _ (looked _ ⟨rfl, Nat.le_add_right _ _, Nat.add_lt_add_left inside _⟩)
    · rw [if_neg inside, if_neg inside]
  rw [readCells, readCells, alike.inRange_eq, alike.size, same]

end AlikeAt

/-- A write to other cells that leaves the run state leaves a store alike. -/
theorem alikeAt_after {within : Area → Nat → Prop} {store : Store} {write : AreaWrite}
    (admitted : store.admits write)
    (elsewhere : ∀ area index, within area index → ¬ write.range.Covers area index)
    (sameState : (store.after write).state = store.state) :
    AlikeAt within store (store.after write) where
  gate := gate_after store write
  state := sameState
  size := size_after admitted
  cells area index looked := by
    have uncovered : write.valueAt? area index = none := by
      rw [← Option.not_isSome_iff_eq_none, ← write.covers_range_iff]
      exact elsewhere area index looked
    rw [getElem?_cells_after admitted, uncovered, Option.none_or]

/-! ## Writes in either order -/

/-- A store is determined by its cells, its gate and its run state. -/
theorem eq_of_cells {first second : Store} (cells : ∀ area, first.cells area = second.cells area)
    (gate : first.gate = second.gate) (state : first.state = second.state) : first = second := by
  obtain ⟨coils, inputs, holding, registers, firstGate, firstState⟩ := first
  obtain ⟨coils', inputs', holding', registers', secondGate, secondState⟩ := second
  rw [Store.mk.injEq]
  exact ⟨cells .coils, cells .discreteInputs, cells .holdingRegisters, cells .inputRegisters,
    gate, state⟩

/-- Writes that have no cell in common come to the same in either order. -/
theorem after_comm {store : Store} {first second : AreaWrite} (firstFits : store.admits first)
    (secondFits : store.admits second) (apart : first.Apart second) :
    (store.after first).after second = (store.after second).after first := by
  refine eq_of_cells (fun area => List.ext_getElem? fun index => ?_) ?_ ?_
  · rw [getElem?_cells_after ((admits_after_iff firstFits second).2 secondFits),
      getElem?_cells_after firstFits,
      getElem?_cells_after ((admits_after_iff secondFits first).2 firstFits),
      getElem?_cells_after secondFits]
    cases ofFirst : first.valueAt? area index with
    | none => rw [Option.none_or, Option.none_or]
    | some value =>
        have covered : first.range.Covers area index :=
          (first.covers_range_iff area index).2 (by rw [ofFirst]; rfl)
        have uncovered : second.valueAt? area index = none := by
          rw [← Option.not_isSome_iff_eq_none, ← second.covers_range_iff]
          exact apart area index covered
        rw [uncovered, Option.none_or, Option.some_or, Option.some_or]
  · simp only [gate_after]
  · simp only [state_after, gate_after]
    split <;> split <;> rfl

end Store

/-! ## Registries -/

/-- A registry is determined by what it holds under its keys, and by its default key. -/
theorem Registry.eq_of_find? {first second : Registry}
    (memories : ∀ key, first.find? key = second.find? key)
    (defaultKey : first.defaultKey = second.defaultKey) : first = second := by
  obtain ⟨firstMemories, firstDefault⟩ := first
  obtain ⟨secondMemories, secondDefault⟩ := second
  rw [Registry.mk.injEq]
  exact ⟨Table.ext_find? memories, defaultKey⟩

/-- What is left of two writes, or of fewer, does not depend on their order, if they have no cell
in common. -/
theorem Registry.Follows.swap {before left right : Registry}
    {first second : Option (String × AreaWrite)}
    (inOrder : before.Follows (first.toList ++ second.toList) left)
    (swapped : before.Follows (second.toList ++ first.toList) right)
    (apart : ∀ key firstWrite secondWrite, first = some (key, firstWrite) →
      second = some (key, secondWrite) → firstWrite.Apart secondWrite) (key : String) :
    left.find? key = right.find? key := by
  rw [inOrder.memory, swapped.memory]
  cases present : before.find? key with
  | none => rfl
  | some store =>
      have admitted := inOrder.admitted key store present
      simp only [Option.map_some, writesTo_append, Store.afterAll_append, List.mem_append]
        at admitted ⊢
      congr 1
      rcases first with _ | ⟨firstKey, firstWrite⟩
      · rfl
      · rcases second with _ | ⟨secondKey, secondWrite⟩
        · rfl
        · by_cases toFirst : firstKey = key
          · by_cases toSecond : secondKey = key
            · subst toFirst toSecond
              have firstFits := admitted firstWrite (.inl (by simp [writesTo]))
              have secondFits := admitted secondWrite (.inr (by simp [writesTo]))
              simpa [writesTo] using
                Store.after_comm firstFits secondFits (apart _ _ _ rfl rfl)
            · simp [writesTo, toSecond]
          · simp [writesTo, toFirst]

end RegisterGateway
