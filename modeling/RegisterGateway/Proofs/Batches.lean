import RegisterGateway.Proofs.PathAgreement
import RegisterGateway.Proofs.Register.Pieces

/-!
# Batches and their pieces

Many values for one range can be sent at once, or in several batches. To a store they can be written
in pieces of any sizes; to a memory that runs, one ingest frame carries as many values as a word
counts, while every Modbus request carries few of them. The main statement is that the same store is
left.
-/

namespace RegisterGateway

/-- Of two stores under one key the later one counts. -/
theorem Registry.replace_replace (registry : Registry) (key : String) (first second : Store) :
    (registry.replace key first).replace key second = registry.replace key second := by
  refine eq_of_find? (fun other => ?_) rfl
  simp only [find?_replace]
  split
  · rw [Option.map_map]
    rfl
  · rfl

namespace Modbus

/-! ## Sequences of requests for several values -/

/-- A request for several values, as it is put together, and the way in which its memory is found.
What stands behind the values is ignored. -/
structure Batch where
  reach : Reach
  unit : UInt8
  code : UInt8
  address : UInt16
  values : List (Grammar.area code).Cell
  /-- The bytes that carry the values. -/
  bytes : List UInt8
  behind : List UInt8 := []

namespace Batch

/-- The write that a batch asks for. -/
def write (batch : Batch) : AreaWrite :=
  ⟨Grammar.area batch.code, batch.address, batch.values⟩

def request (batch : Batch) : List UInt8 :=
  batch.code :: multipleData batch.address batch.values.length batch.bytes batch.behind

/-- The answer to a batch that has been written: its address and the number of its values. -/
def receipt (batch : Batch) : List UInt8 :=
  batch.code :: dataOf batch.address (UInt16.ofNat batch.values.length) []

/-- A batch reaches the memory of a key, by one of the two functions for several values, and carries
at least one value and at most as many as its function allows, with any padding. -/
structure SendsTo (batch : Batch) (key : String) : Prop where
  reached : batch.reach batch.unit batch.code = some key
  multiple : batch.code = 15 ∧ batch.values.length ≤ 1968 ∨
    batch.code = 16 ∧ batch.values.length ≤ 123
  filled : batch.values ≠ []
  carried : ∃ padding, Wire.Carries (Grammar.area batch.code) batch.bytes batch.values padding

/-- Answers a batch. -/
def answer (batch : Batch) (registry : Registry) : List UInt8 × Registry :=
  answerBy batch.reach batch.unit batch.request registry

variable {batch : Batch} {key : String}

theorem SendsTo.code_mem (sends : batch.SendsTo key) : batch.code ∈ Grammar.multiple :=
  Grammar.mem_multiple_iff.2 (sends.multiple.imp And.left And.left)

theorem SendsTo.few (sends : batch.SendsTo key) :
    batch.values.length ≤ Grammar.most batch.code := by
  rcases sends.multiple with ⟨code, few⟩ | ⟨code, few⟩ <;>
    exact Nat.le_trans few (by rw [code]; decide)

theorem answer_of_admits (sends : batch.SendsTo key) {registry : Registry} {store : Store}
    (present : registry.find? key = some store) (runs : store.state = .run)
    (admitted : store.admits batch.write) :
    batch.answer registry =
      (batch.receipt, registry.replace key (store.after batch.write)) := by
  obtain ⟨padding, carried⟩ := sends.carried
  exact answerBy_of_multiple sends.reached present runs sends.code_mem sends.few admitted carried
    batch.behind

/-- Batches that fit are written one after the other. -/
theorem sequence_answer {registry : Registry} {store : Store}
    (present : registry.find? key = some store) (runs : store.state = .run) {batches : List Batch}
    (send : ∀ batch ∈ batches, batch.SendsTo key)
    (admitted : ∀ batch ∈ batches, store.admits batch.write) :
    sequence Batch.answer batches registry =
      (batches.map Batch.receipt,
        registry.replace key (store.afterAll (batches.map Batch.write))) := by
  induction batches generalizing registry store with
  | nil => simp [sequence, Registry.replace_of_find? present]
  | cons batch rest ih =>
      obtain ⟨sendsFirst, sendOthers⟩ := List.forall_mem_cons.1 send
      obtain ⟨first, others⟩ := List.forall_mem_cons.1 admitted
      have left : (registry.replace key (store.after batch.write)).find? key =
          some (store.after batch.write) := by
        rw [Registry.find?_replace, if_pos rfl, present, Option.map_some]
      have later := ih left (Store.state_after_of_run runs batch.write) sendOthers
        fun other member => (Store.admits_after_iff first _).2 (others other member)
      rw [sequence_cons, answer_of_admits sendsFirst present runs first, later,
        Registry.replace_replace]
      rfl

end Batch

end Modbus

/-! ## The main statement -/

open Modbus in
/-- A write that is made as a whole is made in pieces too, whatever the store, the mode and the way
in which its values are cut: every piece is accepted, and the store that is left is the same, its
run state included. So Modbus requests that make up the range of a frame, in any order, leave a
memory that runs as the frame does. -/
theorem pieces_come_to_whole :
    (∀ (store whole : Store) (mode : WriteMode) (area : Area) (address : UInt16)
        (values : Values), store.write mode area address values = .ok whole →
      ∃ cells, values = .ofCells area cells ∧ ∀ pieces, CutInto address.toNat cells pieces →
        pieces.foldlM (fun current piece =>
          current.write mode area piece.1 (.ofCells area piece.2)) store = .ok whole) ∧
    ∀ (registry : Registry) (key : String) (store : Store),
      registry.find? key = some store → store.state = .run →
        ∀ (whole : AreaWrite) (frame : RawIngest.Frame), frame.Sends key whole →
          0 < whole.values.length →
          whole.address.toNat + whole.values.length ≤ store.size whole.area →
            RawIngest.apply registry frame = .ok (registry.replace key (store.after whole)) ∧
            ∀ batches : List Batch, (∀ batch ∈ batches, batch.SendsTo key) →
              whole.MadeUpOf (batches.map Batch.write) →
                sequence Batch.answer batches registry =
                  (batches.map Batch.receipt, registry.replace key (store.after whole)) := by
  refine ⟨fun store whole mode area address values written => ?_,
    fun registry key store present runs whole frame sends positive inside => ?_⟩
  · obtain ⟨cells, kind, written⟩ := Store.write_eq_ok_iff.1 written
    exact ⟨cells, Values.cellsFor?_eq_some_iff.1 kind,
      fun pieces => Store.foldlM_write_of_cutInto written⟩
  · have counted : whole.values.length < 2 ^ 16 := by
      rw [← sends.count]
      exact frame.header.count.toNat_lt
    have fits : store.admits whole := (store.inRange_iff_of_count _ _ positive counted).2 inside
    refine ⟨(Registry.takes present runs fits).frame frame sends, fun batches send madeUp => ?_⟩
    have admitted (batch : Batch) (member : batch ∈ batches) : store.admits batch.write :=
      madeUp.admits fits (List.mem_map_of_mem member) (send batch member).filled
    rw [Batch.sequence_answer present runs send admitted,
      Store.afterAll_eq_after madeUp fits (List.forall_mem_map.2 admitted)]

/-- A store whose run is begun by the sixth of eight discrete inputs. -/
def gatedInputs : Store :=
  .ofLayout ⟨0, 8, 0, 0⟩ (some 5)

/-- The last three of ten coils in two requests, with padding and with bytes behind. -/
def lastThreeInParts : List Modbus.Batch :=
  [⟨fun _ _ => some "1", 7, 15, 7, [true, false], [0xFD], [0xAB]⟩,
    ⟨fun _ _ => some "1", 7, 15, 9, [true], [0x01], []⟩]

theorem sendsTo_lastThreeInParts : ∀ batch ∈ lastThreeInParts, batch.SendsTo "1" := by
  refine List.forall_mem_cons.2 ⟨?_, List.forall_mem_singleton.2 ?_⟩
  · exact ⟨rfl, .inl ⟨rfl, by decide⟩, nofun, List.replicate 6 true, by decide, by decide⟩
  · exact ⟨rfl, .inl ⟨rfl, by decide⟩, nofun, List.replicate 7 false, by decide, by decide⟩

/-- The run begins with the second of three pieces, as it does with the whole write; and two
requests leave the coils that one frame leaves. -/
theorem lastThree_in_parts :
    (∃ whole, gatedInputs.write .unlessSealed .discreteInputs 4 (.bits [false, true, true]) =
        .ok whole ∧ whole.state = .run ∧
      [(4, [false]), (5, [true]), (6, [true])].foldlM (fun (current : Store) piece =>
          current.write .unlessSealed .discreteInputs piece.1 (.bits piece.2)) gatedInputs =
        .ok whole) ∧
      ∃ after, RawIngest.apply Modbus.tenCoils ⟨⟨1, 0, .coils, 1, 7, 3⟩, [0xFD]⟩ = .ok after ∧
        sequence Modbus.Batch.answer lastThreeInParts Modbus.tenCoils =
          ([[15, 0, 7, 0, 2], [15, 0, 9, 0, 1]], after) := by
  obtain ⟨inPieces, inBatches⟩ := pieces_come_to_whole
  constructor
  · obtain ⟨cells, kind, pieces⟩ := inPieces gatedInputs _ .unlessSealed .discreteInputs 4
      (.bits [false, true, true]) rfl
    cases kind
    exact ⟨_, rfl, rfl, pieces [(4, [false]), (5, [true]), (6, [true])]
      (.cons (by decide) rfl rfl (.cons (by decide) rfl rfl (.cons (by decide) rfl rfl .nil)))⟩
  · obtain ⟨applied, batches⟩ := inBatches Modbus.tenCoils "1" (.ofLayout ⟨10, 0, 0, 0⟩ none) rfl
      rfl lastThree ⟨⟨1, 0, .coils, 1, 7, 3⟩, [0xFD]⟩
      ⟨rfl, rfl, rfl, rfl, List.replicate 5 true, by decide, by decide⟩ (by decide) (by decide)
    have cut : CutInto lastThree.address.toNat lastThree.values [(7, [true, false]), (9, [true])] :=
      .cons (by decide) rfl rfl (.cons (by decide) rfl rfl .nil)
    exact ⟨_, applied, batches lastThreeInParts sendsTo_lastThreeInParts cut.madeUpOf⟩

end RegisterGateway
