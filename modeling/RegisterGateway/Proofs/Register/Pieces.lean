import RegisterGateway.Proofs.Register.Apart
import RegisterGateway.Proofs.Register.LastWrite

/-!
# Writes in pieces

Writes make up another one if they put nothing but its values into its cells, and leave none of
these cells out. In whatever order they are made, they leave what the whole write leaves, even if
they begin the run in between (`Store.afterAll_eq_after`). A list of values that is cut into pieces,
each at its own offset, is one case of that.
-/

namespace RegisterGateway

/-! ## What several writes leave -/

/-- An earlier write decides only about the cells that no later one covers. -/
theorem lastWritten?_cons (write : AreaWrite) (rest : List AreaWrite) (area : Area) (index : Nat) :
    lastWritten? (write :: rest) area index =
      (lastWritten? rest area index).or (write.valueAt? area index) := by
  rw [lastWritten?, List.reverse_cons, List.findSome?_append, lastWritten?,
    List.findSome?_singleton]

/-- A cell that some write covers has last been written by one of them. -/
theorem isSome_lastWritten? {writes : List AreaWrite} {write : AreaWrite} (member : write ∈ writes)
    {area : Area} {index : Nat} (covered : (write.valueAt? area index).isSome) :
    (lastWritten? writes area index).isSome := by
  rw [lastWritten?, List.findSome?_isSome_iff]
  exact ⟨write, List.mem_reverse.2 member, covered⟩

namespace Store

/-- After several writes a cell holds what was last written there, or else what it held before. -/
theorem getElem?_cells_afterAll {store : Store} {writes : List AreaWrite}
    (admitted : ∀ write ∈ writes, store.admits write) (area : Area) (index : Nat) :
    ((store.afterAll writes).cells area)[index]? =
      (lastWritten? writes area index).or (store.cells area)[index]? := by
  induction writes generalizing store with
  | nil => rw [afterAll_nil, lastWritten?_nil, Option.none_or]
  | cons write rest ih =>
      obtain ⟨first, others⟩ := List.forall_mem_cons.1 admitted
      have next : ∀ other ∈ rest, (store.after write).admits other := fun other member =>
        (admits_after_iff first other).2 (others other member)
      rw [afterAll_cons, ih next, getElem?_cells_after first, lastWritten?_cons, Option.or_assoc]

/-- After several writes the run has begun if one of them has set the cell of the gate to true. -/
theorem state_afterAll (store : Store) (writes : List AreaWrite) :
    (store.afterAll writes).state =
      if ∃ gate, store.gate = some gate ∧
          ∃ write ∈ writes, write.valueAt? .discreteInputs gate.toNat = some true then .run
      else store.state := by
  induction writes generalizing store with
  | nil => simp
  | cons write rest ih =>
      rw [afterAll_cons, ih, gate_after, state_after]
      by_cases later : ∃ gate, store.gate = some gate ∧
          ∃ other ∈ rest, other.valueAt? .discreteInputs gate.toNat = some true
      · obtain ⟨gate, gated, other, member, opens⟩ := later
        rw [if_pos ⟨gate, gated, other, member, opens⟩,
          if_pos ⟨gate, gated, other, List.mem_cons_of_mem write member, opens⟩]
      · rw [if_neg later]
        congr 1
        refine propext (exists_congr fun gate => and_congr_right fun gated => ?_)
        rw [List.exists_mem_cons_iff]
        exact (or_iff_left fun opened => later ⟨gate, gated, opened⟩).symm

end Store

/-! ## Writes that make up a write -/

/-- Some writes make up another one: what they put into a cell it puts there too, and they leave
none of its cells out. They may overlap, and their order does not count. -/
structure AreaWrite.MadeUpOf (whole : AreaWrite) (pieces : List AreaWrite) : Prop where
  parts : ∀ piece ∈ pieces, ∀ area index value, piece.valueAt? area index = some value →
    whole.valueAt? area index = some value
  covered : ∀ area index, (whole.valueAt? area index).isSome →
    ∃ piece ∈ pieces, (piece.valueAt? area index).isSome

namespace AreaWrite.MadeUpOf

variable {whole : AreaWrite} {pieces : List AreaWrite}

theorem lastWritten?_eq (madeUp : whole.MadeUpOf pieces) (area : Area) (index : Nat) :
    lastWritten? pieces area index = whole.valueAt? area index := by
  cases last : lastWritten? pieces area index with
  | some value =>
      obtain ⟨piece, member, covered⟩ := exists_of_lastWritten? last
      exact (madeUp.parts piece member area index value covered).symm
  | none =>
      cases value : whole.valueAt? area index with
      | none => rfl
      | some _ =>
          obtain ⟨piece, member, covered⟩ := madeUp.covered area index (by rw [value]; rfl)
          have written := isSome_lastWritten? member covered
          rw [last] at written
          contradiction

/-- A value reaches a cell with the whole write exactly if it does so with some piece. -/
theorem exists_valueAt?_iff (madeUp : whole.MadeUpOf pieces) {area : Area} {index : Nat}
    {value : area.Cell} :
    (∃ piece ∈ pieces, piece.valueAt? area index = some value) ↔
      whole.valueAt? area index = some value := by
  constructor
  · rintro ⟨piece, member, covered⟩
    exact madeUp.parts piece member area index value covered
  · intro covered
    rw [← madeUp.lastWritten?_eq] at covered
    exact exists_of_lastWritten? covered

/-- A piece that has values fits wherever the whole write does. -/
theorem admits (madeUp : whole.MadeUpOf pieces) {store : Store} (fits : store.admits whole)
    {piece : AreaWrite} (member : piece ∈ pieces) (filled : piece.values ≠ []) :
    store.admits piece := by
  have positive := List.length_pos_iff.2 filled
  -- The last cell of the piece is one of the whole write.
  have last : (piece.valueAt? piece.area
      (piece.address.toNat + (piece.values.length - 1))).isSome := by
    rw [valueAt?_isSome_iff]
    omega
  obtain ⟨value, covered⟩ := Option.isSome_iff_exists.1 last
  have shared := madeUp.parts piece member _ _ value covered
  have inside := Store.lt_size_of_valueAt? fits shared
  obtain ⟨area, address, values⟩ := piece
  obtain rfl : whole.area = area := area_of_valueAt? shared
  have within := (valueAt?_isSome_iff whole _).1 (by rw [shared]; rfl)
  have small := ((Store.inRange_iff _ _ _ _).1 fits).2.2
  refine (Store.inRange_iff _ _ _ _).2 ⟨positive, ?_, ?_⟩ <;> omega

end AreaWrite.MadeUpOf

/-- Writes that make up another one leave what that one leaves, and begin the run if it does. -/
theorem Store.afterAll_eq_after {store : Store} {whole : AreaWrite} {pieces : List AreaWrite}
    (madeUp : whole.MadeUpOf pieces) (fits : store.admits whole)
    (admitted : ∀ piece ∈ pieces, store.admits piece) :
    store.afterAll pieces = store.after whole := by
  refine eq_of_cells (fun area => List.ext_getElem? fun index => ?_) ?_ ?_
  · rw [getElem?_cells_afterAll admitted, madeUp.lastWritten?_eq, getElem?_cells_after fits]
  · rw [gate_afterAll, gate_after]
  · simp only [state_afterAll, state_after, madeUp.exists_valueAt?_iff]

/-! ## Values that are cut into pieces -/

/-- Values for consecutive places are cut into consecutive pieces, none of them empty. Every piece
has its own address, which is that of the whole with the number of the values before it. -/
structure CutInto {α : Type} (address : Nat) (values : List α) (pieces : List (UInt16 × List α)) :
    Prop where
  filled : ∀ piece ∈ pieces, piece.2 ≠ []
  joined : pieces.flatMap Prod.snd = values
  placed : ∀ before piece behind, pieces = before ++ piece :: behind →
    piece.1.toNat = address + (before.flatMap Prod.snd).length

namespace CutInto

variable {α : Type} {address : Nat} {values : List α} {pieces : List (UInt16 × List α)}

theorem nil : CutInto address ([] : List α) [] where
  filled := nofun
  joined := rfl
  placed before piece behind split := by
    cases before <;> contradiction

/-- A piece in front of what comes behind it. -/
theorem cons {start : UInt16} {piece behind : List α} (filled : piece ≠ [])
    (placed : start.toNat = address) (joined : piece ++ behind = values)
    (cut : CutInto (address + piece.length) behind pieces) :
    CutInto address values ((start, piece) :: pieces) where
  filled := List.forall_mem_cons.2 ⟨filled, cut.filled⟩
  joined := by rw [List.flatMap_cons, cut.joined, joined]
  placed before other later split := by
    cases before with
    | nil =>
        cases split
        exact placed
    | cons first before =>
        cases split
        rw [cut.placed before other later rfl, List.flatMap_cons, List.length_append,
          Nat.add_assoc]

end CutInto

/-- Every value stands in some piece. -/
theorem exists_piece_of_lt {ι α : Type} {pieces : List (ι × List α)} {offset : Nat}
    (inside : offset < (pieces.flatMap Prod.snd).length) :
    ∃ before piece behind, pieces = before ++ piece :: behind ∧
      (before.flatMap Prod.snd).length ≤ offset ∧
      offset < (before.flatMap Prod.snd).length + piece.2.length := by
  induction pieces generalizing offset with
  | nil => contradiction
  | cons first rest ih =>
      rw [List.flatMap_cons, List.length_append] at inside
      by_cases early : offset < first.2.length
      · exact ⟨[], first, rest, rfl, Nat.zero_le offset, by simpa using early⟩
      · have later : offset - first.2.length < (rest.flatMap Prod.snd).length := by omega
        obtain ⟨before, piece, behind, rfl, reached, ends⟩ := ih later
        refine ⟨first :: before, piece, behind, rfl, ?_, ?_⟩ <;>
          rw [List.flatMap_cons, List.length_append] <;> omega

theorem CutInto.madeUpOf {area : Area} {address : UInt16} {values : List area.Cell}
    {pieces : List (UInt16 × List area.Cell)} (cut : CutInto address.toNat values pieces) :
    AreaWrite.MadeUpOf ⟨area, address, values⟩
      (pieces.map fun piece => ⟨area, piece.1, piece.2⟩) where
  parts write member other index value covered := by
    obtain ⟨piece, inPieces, rfl⟩ := List.mem_map.1 member
    obtain ⟨before, behind, split⟩ := List.append_of_mem inPieces
    have start := cut.placed before piece behind split
    obtain rfl : area = other := AreaWrite.area_of_valueAt? covered
    rw [AreaWrite.valueAt?_self] at covered ⊢
    by_cases reached : piece.1.toNat ≤ index
    · rw [if_pos reached] at covered
      have inside := (List.getElem?_eq_some_iff.1 covered).1
      have offset : index - address.toNat - (before.flatMap Prod.snd).length =
          index - piece.1.toNat := by omega
      rw [if_pos (by omega), ← cut.joined, split, List.flatMap_append, List.flatMap_cons,
        List.getElem?_append_right (by omega), offset, List.getElem?_append_left inside, covered]
    · rw [if_neg reached] at covered
      contradiction
  covered other index covered := by
    obtain ⟨value, found⟩ := Option.isSome_iff_exists.1 covered
    obtain rfl : area = other := AreaWrite.area_of_valueAt? found
    obtain ⟨reached, ends⟩ := (AreaWrite.valueAt?_isSome_iff _ index).1 covered
    have inside : index - address.toNat < (pieces.flatMap Prod.snd).length := by
      rw [cut.joined]
      simp only at reached ends
      omega
    obtain ⟨before, piece, behind, split, notBefore, notBehind⟩ := exists_piece_of_lt inside
    have start := cut.placed before piece behind split
    have member : piece ∈ pieces := by simp [split]
    refine ⟨_, List.mem_map_of_mem member, (AreaWrite.valueAt?_isSome_iff _ index).2 ?_⟩
    simp only at reached ⊢
    omega

namespace Store

/-- A write begins no run with an area of the operator. -/
theorem state_after_of_operator {write : AreaWrite} (operator : write.area.isOperator = true)
    (store : Store) : (store.after write).state = store.state := by
  rw [state_after]
  apply if_neg
  rintro ⟨gate, -, opens⟩
  rw [AreaWrite.area_of_valueAt? opens] at operator
  contradiction

/-- No write closes or opens its own area: those that begin the run go to another one. -/
theorem refusesAsSealed_after (store : Store) (mode : WriteMode) (write : AreaWrite) :
    (store.after write).refusesAsSealed mode write.area =
      store.refusesAsSealed mode write.area := by
  cases operator : write.area.isOperator with
  | false => simp [refusesAsSealed, operator]
  | true => simp only [refusesAsSealed, isSealed, gate_after, state_after_of_operator operator]

/-- Writes to one area that is open are made one after the other, if each of them fits. -/
theorem foldlM_write {store : Store} {mode : WriteMode} {area : Area}
    (isOpen : store.refusesAsSealed mode area = false) {pieces : List (UInt16 × List area.Cell)}
    (admitted : ∀ piece ∈ pieces, store.admits ⟨area, piece.1, piece.2⟩) :
    pieces.foldlM (fun current piece =>
        current.write mode area piece.1 (.ofCells area piece.2)) store =
      .ok (store.afterAll (pieces.map fun piece => ⟨area, piece.1, piece.2⟩)) := by
  induction pieces generalizing store with
  | nil => rfl
  | cons piece rest ih =>
      obtain ⟨first, others⟩ := List.forall_mem_cons.1 admitted
      have written : store.write mode area piece.1 (.ofCells area piece.2) =
          .ok (store.after ⟨area, piece.1, piece.2⟩) :=
        write_eq_ok_iff.2 ⟨piece.2, Values.cellsFor?_ofCells area _,
          writeCells_eq_ok_iff.2 ⟨isOpen, first, rfl⟩⟩
      have stillOpen := store.refusesAsSealed_after mode ⟨area, piece.1, piece.2⟩
      rw [List.foldlM_cons, written, List.map_cons, afterAll_cons]
      exact ih (stillOpen.trans isOpen) fun other member =>
        (admits_after_iff first _).2 (others other member)

/-- Values that are written as a whole are written in pieces too. -/
theorem foldlM_write_of_cutInto {store whole : Store} {mode : WriteMode} {area : Area}
    {address : UInt16} {values : List area.Cell}
    (written : store.writeCells mode area address values = .ok whole)
    {pieces : List (UInt16 × List area.Cell)} (cut : CutInto address.toNat values pieces) :
    pieces.foldlM (fun current piece =>
        current.write mode area piece.1 (.ofCells area piece.2)) store = .ok whole := by
  obtain ⟨isOpen, fits, rfl⟩ := writeCells_eq_ok_iff.1 written
  have admitted (piece : UInt16 × List area.Cell) (member : piece ∈ pieces) :
      store.admits ⟨area, piece.1, piece.2⟩ :=
    cut.madeUpOf.admits fits (List.mem_map_of_mem member) (cut.filled piece member)
  rw [foldlM_write isOpen admitted, afterAll_eq_after cut.madeUpOf fits]
  intro write member
  obtain ⟨piece, inPieces, rfl⟩ := List.mem_map.1 member
  exact admitted piece inPieces

end Store

end RegisterGateway
