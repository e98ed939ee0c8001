import RegisterGateway.Proofs.Ingest.Interleaving

/-!
# What a command is refused for

There are seven kinds of objections to a command. Each of them is said here on its own, and several
may hold of one command. The command is refused with the objection that comes first in the order of
the kinds, and it is carried out if there is none.
-/

namespace RegisterGateway.Ingest

/-! ## Objections -/

/-- Whether an integer stands for no bit. -/
def isNoBit (value : Int64) : Bool :=
  value ≠ 0 ∧ value ≠ 1

/-- The cells that a command carries for an area, each of its integers being zero or one. -/
def Command.cells (command : Command) : (area : Area) → List area.Cell
  | .coils => command.bools.map fun value => value = 1
  | .discreteInputs => command.bools.map fun value => value = 1
  | .holdingRegisters => command.values
  | .inputRegisters => command.values

/-- What can be said against a command, and the error with which it is then refused unless something
else comes first. -/
inductive Objection (command : Command) (registry : Registry) : IngestError → Prop where
  | unknownMemory (missing : registry.find? command.memory = none) :
      Objection command registry (.unknownMemory command.memory)
  | invalidArea (unnamed : ∀ area : Area, area.name ≠ Text.trim command.area) :
      Objection command registry (.invalidArea command.area)
  /-- Both lists are empty, or neither is. -/
  | invalidPayload (alike : command.bools = [] ↔ command.values = []) :
      Objection command registry .invalidPayload
  | denied {area : Area} {store : Store} (named : area.name = Text.trim command.area)
      (operator : area = .coils ∨ area = .holdingRegisters)
      (present : registry.find? command.memory = some store) (gated : store.gate ≠ none)
      (runs : store.state = .run) :
      Objection command registry (.denied area)
  /-- Words come for bits, or bits for words. -/
  | payloadMismatch {area : Area} (named : area.name = Text.trim command.area)
      (other : if area.isBit then command.values ≠ [] else command.bools ≠ []) :
      Objection command registry (.payloadMismatch area)
  | invalidBoolean {value : Int64}
      (first : command.bools.find? isNoBit = some value) :
      Objection command registry (.invalidBoolean value)
  /-- The range does not lie in the area. (No sum that 64 bits cannot hold does, and an area that is
  counted by 64 bits is too small for it in any case.) -/
  | outOfRange {area : Area} {store : Store} (named : area.name = Text.trim command.area)
      (present : registry.find? command.memory = some store)
      (outside : store.size area < command.address.toNat + command.length ∨
        2 ^ 64 ≤ command.address.toNat + command.length) :
      Objection command registry
        (.memory (.outOfRange area command.address command.length (store.size area)))

/-- The place of an error in the order in which objections are made. -/
def IngestError.place : IngestError → Nat
  | .unknownMemory _ => 0
  | .invalidArea _ => 1
  | .invalidPayload => 2
  | .denied _ => 3
  | .payloadMismatch _ => 4
  | .invalidBoolean _ => 5
  | .memory _ => 6

section Objections

variable {command : Command} {registry : Registry} {error other : IngestError} {place : Nat}

/-- At one place there is one objection at most. -/
theorem Objection.unique (first : Objection command registry error)
    (second : Objection command registry other) (same : error.place = other.place) :
    error = other := by
  cases first with
  | unknownMemory missing =>
      cases second with
      | unknownMemory => rfl
      | _ => simp [IngestError.place] at same
  | invalidArea unnamed =>
      cases second with
      | invalidArea => rfl
      | _ => simp [IngestError.place] at same
  | invalidPayload alike =>
      cases second with
      | invalidPayload => rfl
      | _ => simp [IngestError.place] at same
  | denied named operator present gated runs =>
      cases second with
      | denied alsoNamed => rw [Area.name_inj (named.trans alsoNamed.symm)]
      | _ => simp [IngestError.place] at same
  | payloadMismatch named wrong =>
      cases second with
      | payloadMismatch alsoNamed => rw [Area.name_inj (named.trans alsoNamed.symm)]
      | _ => simp [IngestError.place] at same
  | invalidBoolean found =>
      cases second with
      | invalidBoolean alsoFound => rw [Option.some.inj (found.symm.trans alsoFound)]
      | _ => simp [IngestError.place] at same
  | outOfRange named present outside =>
      cases second with
      | outOfRange alsoNamed alsoPresent =>
          obtain rfl := Area.name_inj (named.trans alsoNamed.symm)
          obtain rfl := Option.some.inj (present.symm.trans alsoPresent)
          rfl
      | _ => simp [IngestError.place] at same

/-- No objection comes before a place. -/
def Clear (command : Command) (registry : Registry) (place : Nat) : Prop :=
  ∀ error, Objection command registry error → place ≤ error.place

theorem Clear.start : Clear command registry 0 :=
  fun _ _ => Nat.zero_le _

theorem Clear.next (clear : Clear command registry place)
    (none : ∀ error, Objection command registry error → error.place ≠ place) :
    Clear command registry (place + 1) :=
  fun error objection => Nat.lt_of_le_of_ne (clear error objection) (none error objection).symm

/-! ## Places without objection -/

variable {store : Store} {area : Area}

theorem Clear.ofMemory (clear : Clear command registry 0)
    (present : registry.find? command.memory = some store) : Clear command registry 1 := by
  apply clear.next
  intro error objection
  cases objection with
  | unknownMemory missing => simp [present] at missing
  | _ => simp [IngestError.place]

theorem Clear.ofArea (clear : Clear command registry 1)
    (named : area.name = Text.trim command.area) : Clear command registry 2 := by
  apply clear.next
  intro error objection
  cases objection with
  | invalidArea unnamed => exact absurd named (unnamed area)
  | _ => simp [IngestError.place]

theorem Clear.ofPayload (clear : Clear command registry 2)
    (oneList : ¬(command.bools = [] ↔ command.values = [])) : Clear command registry 3 := by
  apply clear.next
  intro error objection
  cases objection with
  | invalidPayload alike => exact absurd alike oneList
  | _ => simp [IngestError.place]

theorem Clear.ofSeal (clear : Clear command registry 3)
    (named : area.name = Text.trim command.area)
    (present : registry.find? command.memory = some store)
    (isOpen : (area.isOperator && store.isSealed) = false) : Clear command registry 4 := by
  apply clear.next
  intro error objection
  cases objection with
  | denied alsoNamed operator alsoPresent gated runs =>
      obtain rfl := Area.name_inj (named.trans alsoNamed.symm)
      obtain rfl := Option.some.inj (present.symm.trans alsoPresent)
      have closed : store.isSealed = true := by
        simp [Store.isSealed, Option.isSome_iff_ne_none.2 gated, runs]
      rcases operator with rfl | rfl <;> simp [Area.isOperator, closed] at isOpen
  | _ => simp [IngestError.place]

theorem Clear.ofKind (clear : Clear command registry 4)
    (named : area.name = Text.trim command.area)
    (rightKind : ¬if area.isBit then command.values ≠ [] else command.bools ≠ []) :
    Clear command registry 5 := by
  apply clear.next
  intro error objection
  cases objection with
  | payloadMismatch alsoNamed other =>
      obtain rfl := Area.name_inj (named.trans alsoNamed.symm)
      exact absurd other rightKind
  | _ => simp [IngestError.place]

theorem Clear.ofBooleans (clear : Clear command registry 5)
    (readable : command.bools.find? isNoBit = none) :
    Clear command registry 6 := by
  apply clear.next
  intro error objection
  cases objection with
  | invalidBoolean first =>
      rw [readable] at first
      contradiction
  | _ => simp [IngestError.place]

theorem Clear.ofRange (clear : Clear command registry 6)
    (named : area.name = Text.trim command.area)
    (present : registry.find? command.memory = some store)
    (inside : command.address.toNat + command.length ≤ store.size area ∧
      command.address.toNat + command.length < 2 ^ 64) : Clear command registry 7 := by
  apply clear.next
  intro error objection
  cases objection with
  | outOfRange alsoNamed alsoPresent outside =>
      obtain rfl := Area.name_inj (named.trans alsoNamed.symm)
      obtain rfl := Option.some.inj (present.symm.trans alsoPresent)
      omega
  | _ => simp [IngestError.place]

/-- There are seven places. -/
theorem Clear.all (clear : Clear command registry 7) :
    ∀ error, ¬Objection command registry error := by
  intro error objection
  have beyond := clear error objection
  cases objection <;> simp [IngestError.place] at beyond

end Objections

/-! ## The cells of a command -/

section Cells

variable {command : Command} {area : Area}

/-- Integers are read as bits up to the first one that is neither zero nor one. -/
theorem mapM_bit_eq (integers : List Int64) :
    integers.mapM bit =
      match integers.find? isNoBit with
      | some value => .error (.invalidBoolean value)
      | none => .ok (integers.map fun value => value = 1) := by
  induction integers with
  | nil => rfl
  | cons first rest ih =>
      rw [List.mapM_cons, ih]
      by_cases noBit : isNoBit first = true
      · obtain ⟨notZero, notOne⟩ : first ≠ 0 ∧ first ≠ 1 := by simpa [isNoBit] using noBit
        have unread : bit first = .error (.invalidBoolean first) := by
          rw [bit, if_neg notZero, if_neg notOne]
        rw [unread, List.find?_cons_of_pos noBit]
        rfl
      · have read : bit first = .ok (decide (first = 1)) := by
          by_cases zero : first = 0
          · subst zero
            rfl
          · have one : first = 1 := by simpa [isNoBit, zero] using noBit
            subst one
            rfl
        rw [read, List.find?_cons_of_neg noBit]
        cases rest.find? isNoBit with
        | some value => rfl
        | none => rfl

theorem cellsFor_of_otherKind (oneList : ¬(command.bools = [] ↔ command.values = []))
    (otherKind : if area.isBit then command.values ≠ [] else command.bools ≠ []) :
    command.cellsFor area = .error (.payloadMismatch area) := by
  cases area with
  | coils | discreteInputs =>
      have noBits : command.bools = [] := by simp_all [Area.isBit]
      simp [Command.cellsFor, noBits]
  | holdingRegisters | inputRegisters =>
      have noWords : command.values = [] := by simp_all [Area.isBit]
      simp [Command.cellsFor, noWords]

theorem cellsFor_of_rightKind (oneList : ¬(command.bools = [] ↔ command.values = []))
    (rightKind : ¬if area.isBit then command.values ≠ [] else command.bools ≠ []) :
    command.cellsFor area =
      match command.bools.find? isNoBit with
      | some value => .error (.invalidBoolean value)
      | none => .ok (command.cells area) := by
  cases area with
  | coils | discreteInputs =>
      have bits : command.bools ≠ [] := by simp_all [Area.isBit]
      rw [Command.cellsFor, if_neg (by simpa using bits), mapM_bit_eq]
      rfl
  | holdingRegisters | inputRegisters =>
      have noBits : command.bools = [] := by simp_all [Area.isBit]
      have words : command.values ≠ [] := by simp_all
      rw [Command.cellsFor, if_neg (by simpa using words), noBits]
      rfl

theorem length_cells
    (rightKind : ¬if area.isBit then command.values ≠ [] else command.bools ≠ []) :
    (command.cells area).length = command.length := by
  cases area with
  | coils | discreteInputs =>
      have noWords : command.values = [] := by simpa [Area.isBit] using rightKind
      simp [Command.cells, Command.length, noWords]
  | holdingRegisters | inputRegisters =>
      have noBits : command.bools = [] := by simpa [Area.isBit] using rightKind
      simp [Command.cells, Command.length, noBits]

theorem length_pos_of_oneList (oneList : ¬(command.bools = [] ↔ command.values = [])) :
    0 < command.length := by
  refine Nat.pos_of_ne_zero fun none => oneList ?_
  obtain ⟨noBits, noWords⟩ := Nat.add_eq_zero_iff.1 none
  exact iff_of_true (List.length_eq_zero_iff.1 noBits) (List.length_eq_zero_iff.1 noWords)

/-- An area is closed if it belongs to the operator of a memory that has a gate and runs. -/
theorem operator_of_closed {store : Store} (closed : (area.isOperator && store.isSealed) = true) :
    (area = .coils ∨ area = .holdingRegisters) ∧ store.gate ≠ none ∧ store.state = .run := by
  obtain ⟨operator, gated, runs⟩ :
      area.isOperator = true ∧ store.gate.isSome = true ∧ store.state = .run := by
    simpa [Store.isSealed] using closed
  refine ⟨?_, Option.isSome_iff_ne_none.1 gated, runs⟩
  cases area with
  | coils => exact .inl rfl
  | holdingRegisters => exact .inr rfl
  | discreteInputs | inputRegisters => contradiction

end Cells

/-! ## Verdicts -/

section Verdicts

variable {command : Command} {registry : Registry}

/-- What comes of a command: the first objection to it, or its write. -/
inductive Verdict (command : Command) (registry : Registry) :
    Except IngestError (Nat × Registry) → Prop where
  | refused {error : IngestError} (objection : Objection command registry error)
      (first : Clear command registry error.place) : Verdict command registry (.error error)
  | carriedOut {area : Area} {store changed : Store}
      (named : area.name = Text.trim command.area)
      (present : registry.find? command.memory = some store)
      (written : store.write .always area command.address (.ofCells area (command.cells area)) =
        .ok changed)
      (clear : Clear command registry 7) :
      Verdict command registry (.ok (command.length, registry.replace command.memory changed))

theorem verdict_of_refused {error : IngestError} (refused : command.check registry = .error error)
    (objection : Objection command registry error)
    (first : Clear command registry error.place) :
    Verdict command registry (command.ingest registry) := by
  rw [Command.ingest, refused]
  exact .refused objection first

/-- A command that passes its check is refused if its range does not fit, and carried out
otherwise. -/
theorem verdict_of_check {area : Area} {store : Store}
    (named : area.name = Text.trim command.area)
    (present : registry.find? command.memory = some store)
    (isOpen : (area.isOperator && store.isSealed) = false)
    (counted : (command.cells area).length = command.length) (filled : 0 < command.length)
    (checked : command.check registry =
      .ok ⟨command.memory, area, command.address, command.cells area⟩)
    (clear : Clear command registry 6) : Verdict command registry (command.ingest registry) := by
  have committed : command.ingest registry =
      PendingWrite.commit ⟨command.memory, area, command.address, command.cells area⟩ registry := by
    rw [Command.ingest, checked]
    rfl
  rw [committed, commit_eq present]
  simp only [counted, isOpen, Bool.false_eq_true, if_false]
  by_cases inside : store.inRange area command.address command.length = true
  · rw [if_pos inside]
    obtain ⟨-, fits, small⟩ := (Store.inRange_iff store area _ _).1 inside
    refine .carriedOut named present ?_ (clear.ofRange named present ⟨fits, small⟩)
    rw [Store.write, Values.cellsFor?_ofCells]
    simp only [Store.writeCells_always, counted, if_pos inside]
  · rw [if_neg inside]
    refine .refused (.outOfRange named present ?_) clear
    rw [Store.inRange_iff] at inside
    omega

/-- What comes of a command of one list for an area that is not closed. -/
theorem verdict_of_open {area : Area} {store : Store}
    (named : area.name = Text.trim command.area)
    (present : registry.find? command.memory = some store)
    (oneList : ¬(command.bools = [] ↔ command.values = []))
    (isOpen : (area.isOperator && store.isSealed) = false)
    (checked : command.check registry = (command.cellsFor area).map fun values =>
      ⟨command.memory, area, command.address, values⟩)
    (clear : Clear command registry 4) : Verdict command registry (command.ingest registry) := by
  by_cases otherKind : if area.isBit then command.values ≠ [] else command.bools ≠ []
  · refine verdict_of_refused ?_ (.payloadMismatch named otherKind) clear
    rw [checked, cellsFor_of_otherKind oneList otherKind]
    rfl
  · replace clear := clear.ofKind named otherKind
    rw [cellsFor_of_rightKind oneList otherKind] at checked
    cases unread : command.bools.find? isNoBit with
    | some value =>
        refine verdict_of_refused ?_ (.invalidBoolean unread) clear
        rw [checked, unread]
        rfl
    | none =>
        rw [unread] at checked
        exact verdict_of_check named present isOpen (length_cells otherKind)
          (length_pos_of_oneList oneList) checked (clear.ofBooleans unread)

/-- The check makes its objections in the order of their places. -/
theorem verdict_ingest (command : Command) (registry : Registry) :
    Verdict command registry (command.ingest registry) := by
  cases present : registry.find? command.memory with
  | none =>
      refine verdict_of_refused ?_ (.unknownMemory present) .start
      simp only [Command.check, present]
  | some store =>
      have clear := Clear.start.ofMemory present
      cases found : areaOf? command.area with
      | none =>
          refine verdict_of_refused ?_ (.invalidArea fun area named => ?_) clear
          · simp only [Command.check, present, found]
          · rw [areaOf?, Area.ofName?_eq_some_iff.2 named] at found
            contradiction
      | some area =>
          have named : area.name = Text.trim command.area := Area.ofName?_eq_some_iff.1 found
          replace clear := clear.ofArea named
          have lists : command.bools.isEmpty = command.values.isEmpty ↔
              (command.bools = [] ↔ command.values = []) := by
            rw [Bool.eq_iff_iff, List.isEmpty_iff, List.isEmpty_iff]
          by_cases alike : command.bools = [] ↔ command.values = []
          · refine verdict_of_refused ?_ (.invalidPayload alike) clear
            simp only [Command.check, present, found, if_pos (lists.2 alike)]
          · replace clear := clear.ofPayload alike
            by_cases closed : (area.isOperator && store.isSealed) = true
            · obtain ⟨operator, gated, runs⟩ := operator_of_closed closed
              refine verdict_of_refused ?_ (.denied named operator present gated runs) clear
              simp only [Command.check, present, found, if_neg (mt lists.1 alike), if_pos closed]
            · have isOpen := Bool.eq_false_iff.2 closed
              refine verdict_of_open named present alike isOpen ?_
                (clear.ofSeal named present isOpen)
              simp only [Command.check, present, found, if_neg (mt lists.1 alike), if_neg closed]

/-- Every command is refused with the first objection to it. If there is none, all its values are
written, as by a plain write, and nothing else changes. No store finds fault with the kind of the
values or with the seal after the check. -/
theorem ingest_decides_in_order (command : Command) (registry : Registry) :
    (∀ error, command.ingest registry = .error error ↔
        Objection command registry error ∧
          ∀ other, Objection command registry other → error.place ≤ other.place) ∧
      ((∀ error, ¬Objection command registry error) →
        ∃ area store changed, area.name = Text.trim command.area ∧
          registry.find? command.memory = some store ∧
          store.write .always area command.address (.ofCells area (command.cells area)) =
            .ok changed ∧
          command.ingest registry =
            .ok (command.length, registry.replace command.memory changed)) ∧
      ∀ area, command.ingest registry ≠ .error (.memory (.kindMismatch area)) ∧
        command.ingest registry ≠ .error (.memory (.isSealed area)) := by
  have decided := verdict_ingest command registry
  generalize command.ingest registry = result at decided ⊢
  cases decided with
  | @refused error objection first =>
      refine ⟨fun other => ⟨?_, ?_⟩, fun none => absurd objection (none error), fun area => ?_⟩
      · rintro same
        cases same
        exact ⟨objection, first⟩
      · rintro ⟨objectionToo, firstToo⟩
        have same := Nat.le_antisymm (first other objectionToo) (firstToo error objection)
        rw [objection.unique objectionToo same]
      · constructor
        · intro same
          cases same
          cases objection
        · intro same
          cases same
          cases objection
  | carriedOut named present written clear =>
      refine ⟨fun error => ⟨nofun, fun other => absurd other.1 (clear.all error)⟩,
        fun _ => ⟨_, _, _, named, present, written, rfl⟩, fun area => ⟨nofun, nofun⟩⟩

end Verdicts

end RegisterGateway.Ingest
