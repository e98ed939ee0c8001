import RegisterGateway.Proofs.Ingest.Interleaving
import RegisterGateway.Proofs.Modbus.Encoding
import RegisterGateway.Proofs.RawIngest.Conversation
import RegisterGateway.Proofs.Rest.Reading

/-!
# All paths agree on the values

Values reach a memory that runs on several paths: calls of its store, ingest frames, commands, and
Modbus requests for several values or for one. Wherever the same values are sent, the same store is
left. They leave it on three paths, calls of the store, HTTP requests and Modbus requests, and
whatever range is read, all three show the same cells.
-/

namespace RegisterGateway

/-! ## Values on their way -/

/-- A command lists values: bits as zeros and ones, words as they are, and nothing else. -/
def Ingest.Command.Lists (command : Command) : (area : Area) → List area.Cell → Prop
  | .coils, bits | .discreteInputs, bits =>
      command.bools = bits.map (fun bit => if bit then 1 else 0) ∧ command.values = []
  | .holdingRegisters, words | .inputRegisters, words =>
      command.bools = [] ∧ command.values = words

/-- A command asks for a write by its list of values. -/
structure Ingest.Command.Sends (command : Command) (key : String) (write : AreaWrite) : Prop where
  key : command.memory = key
  area : areaOf? command.area = some write.area
  address : command.address = write.address
  values : command.Lists write.area write.values

/-- A frame asks for a write by its payload, with any padding. -/
structure RawIngest.Frame.Sends (frame : Frame) (key : String) (write : AreaWrite) : Prop where
  key : frame.key = key
  area : frame.header.area = write.area
  address : frame.header.address = write.address
  count : frame.header.count.toNat = write.values.length
  payload : ∃ padding, Wire.Carries write.area frame.payload write.values padding

theorem RawIngest.Frame.Sends.write_eq {frame : Frame} {key : String} {write : AreaWrite}
    (sends : frame.Sends key write) :
    frame.write = write ∧ frame.payload.length = frame.header.payloadSize := by
  obtain ⟨area, address, values⟩ := write
  obtain ⟨-, rfl, rfl, count, payload⟩ := sends
  obtain ⟨size, placed⟩ := Wire.carries_iff.1 payload
  rw [← count] at size placed
  refine ⟨?_, size⟩
  rw [Frame.write, Frame.values, placed]

theorem Ingest.mapM_bit (bits : List Bool) :
    (bits.map fun bit => if bit then 1 else 0).mapM bit = .ok bits := by
  induction bits with
  | nil => rfl
  | cons first rest ih =>
      rw [List.map_cons, List.mapM_cons, ih]
      cases first <;> rfl

/-- Values that are listed are the cells that a command carries. -/
theorem Ingest.Command.Sends.asks {command : Command} {key : String} {write : AreaWrite}
    (sends : command.Sends key write) (positive : 0 < write.values.length) :
    command.Asks ⟨key, write.area, write.address, write.values⟩ := by
  obtain ⟨memory, text, start, bools, words⟩ := command
  obtain ⟨area, address, values⟩ := write
  obtain ⟨rfl, named, rfl, lists⟩ := sends
  have filled : values.isEmpty = false := by
    rw [List.isEmpty_eq_false_iff]
    exact List.ne_nil_of_length_pos positive
  cases area with
  | coils | discreteInputs =>
      obtain ⟨rfl, rfl⟩ : bools = values.map (fun bit => if bit then 1 else 0) ∧ words = [] := lists
      refine ⟨rfl, named, by simp [filled], rfl, ?_⟩
      simp only [cellsFor, List.isEmpty_map, filled, Bool.false_eq_true, if_false, mapM_bit]
  | holdingRegisters | inputRegisters =>
      obtain ⟨rfl, rfl⟩ : bools = [] ∧ words = values := lists
      exact ⟨rfl, named, by simp [filled], rfl, by simp only [cellsFor, filled]; rfl⟩

/-! ## Paths into a memory -/

open Modbus in
/-- On every path on which a write can be sent to a memory, it leaves the same store. -/
structure Registry.Takes (registry : Registry) (key : String) (store : Store) (write : AreaWrite) :
    Prop where
  /-- Calls of the store. -/
  calls : store.writeCells .always write.area write.address write.values =
      .ok (store.after write) ∧
    ∀ mode, store.refusesAsSealed mode write.area = false →
      store.write mode write.area write.address (.ofCells write.area write.values) =
        .ok (store.after write)
  /-- Ingest frames. -/
  frame : ∀ frame : RawIngest.Frame, frame.Sends key write →
    RawIngest.apply registry frame = .ok (registry.replace key (store.after write))
  /-- Commands, unless they ask for an area of the operator of a memory that is sealed. -/
  command : ∀ command : Ingest.Command, command.Sends key write →
    (write.area.isOperator && store.isSealed) = false →
      command.ingest registry =
        .ok (write.values.length, registry.replace key (store.after write))
  /-- Requests for several values, as far as these are not too many. -/
  multiple : ∀ (reach : Reach) (unit code : UInt8) (bytes behind : List UInt8)
    (padding : List Bool),
    reach unit code = some key → code ∈ Grammar.multiple → Grammar.area code = write.area →
      write.values.length ≤ Grammar.most code →
        Wire.Carries write.area bytes write.values padding →
          answerBy reach unit
              (code :: multipleData write.address write.values.length bytes behind) registry =
            (code :: dataOf write.address (UInt16.ofNat write.values.length) [],
              registry.replace key (store.after write))
  /-- Requests for a single value. -/
  single : ∀ (reach : Reach) (unit code : UInt8) (value : write.area.Cell) (behind : List UInt8),
    reach unit code = some key → code ∈ Grammar.single → Grammar.area code = write.area →
      write.values = [value] →
        answerBy reach unit (code :: dataOf write.address (singleWord write.area value) behind)
            registry =
          (code :: dataOf write.address (singleWord write.area value) [],
            registry.replace key (store.after write))

theorem Registry.takes {registry : Registry} {key : String} {store : Store}
    (present : registry.find? key = some store) (runs : store.state = .run) {write : AreaWrite}
    (admitted : store.admits write) : registry.Takes key store write where
  calls := by
    refine ⟨Store.writeCells_eq_ok_iff.2 ⟨rfl, admitted, rfl⟩, fun mode allowed => ?_⟩
    exact Store.write_eq_ok_iff.2 ⟨write.values, Values.cellsFor?_ofCells _ _,
      Store.writeCells_eq_ok_iff.2 ⟨allowed, admitted, rfl⟩⟩
  frame frame sends := by
    obtain ⟨rfl, size⟩ := sends.write_eq
    obtain ⟨rfl, -, -, -, -⟩ := sends
    rw [RawIngest.Frame.apply_of_present size present]
    exact if_pos admitted
  command command sends allowed := by
    obtain ⟨positive, -⟩ := (store.inRange_iff _ _ _).1 admitted
    have asks := sends.asks positive
    obtain ⟨rfl, -, -, -⟩ := sends
    rw [Ingest.Command.ingest, Ingest.check_eq asks present, if_neg (by simp [allowed])]
    refine (Ingest.commit_eq present).trans ?_
    rw [if_neg (by simp [allowed])]
    exact if_pos admitted
  multiple reach unit code bytes behind padding reached multiple area few carried := by
    obtain ⟨_, address, values⟩ := write
    subst area
    exact Modbus.answerBy_of_multiple reached present runs multiple few admitted carried behind
  single reach unit code value behind reached single area one := by
    obtain ⟨_, address, values⟩ := write
    subst area
    change (Modbus.Grammar.area code).Cell at value
    change values = [value] at one
    subst one
    exact Modbus.answerBy_of_single reached present runs single admitted behind

/-! ## Paths out of a memory -/

open Modbus in
/-- On every path on which a range can be read, the same cells are shown. -/
structure Registry.Shows (registry : Registry) (key : String) (area : Area) (address : UInt16)
    (cells : List area.Cell) : Prop where
  /-- Calls of the store. -/
  call : ∃ store, registry.find? key = some store ∧
    store.read area address cells.length = .ok (.ofCells area cells)
  /-- HTTP requests. -/
  http : ∀ (interface : Rest.Interface) (status : Option Mqtt.Status) (counters : Counters)
      (request : Rest.Request), request.AsksFor interface key area address cells.length →
    (Rest.handle interface status request ⟨registry, counters⟩).1.status = 200 ∧
      Json.Value.ofBytes? (Rest.handle interface status request ⟨registry, counters⟩).1.body =
        some (Rest.readReport key area address cells) ∧
      (Rest.handle interface status request ⟨registry, counters⟩).2.registry = registry
  /-- Modbus requests, as far as the cells are not too many. The padding is false. -/
  modbus : ∀ (reach : Reach) (unit code : UInt8) (behind : List UInt8),
    reach unit code = some key → code ∈ Grammar.reading → Grammar.area code = area →
      cells.length ≤ Grammar.most code →
        ∃ size bytes zeros,
          answerBy reach unit (code :: dataOf address (UInt16.ofNat cells.length) behind) registry =
            (code :: size :: bytes, registry) ∧ size.toNat = bytes.length ∧
          Wire.Carries area bytes cells (List.replicate zeros false)

theorem Registry.shows {registry : Registry} {key : String} {store : Store}
    (present : registry.find? key = some store) (runs : store.state = .run) {area : Area}
    {address : UInt16} {count : Nat} (inside : store.inRange area address count) :
    registry.Shows key area address (((store.cells area).drop address.toNat).take count) := by
  obtain ⟨positive, fits, -⟩ := (store.inRange_iff _ _ _).1 inside
  have length : (((store.cells area).drop address.toNat).take count).length = count := by
    rw [Store.size] at fits
    rw [List.length_take, List.length_drop]
    omega
  have read : store.readCells area address count =
      .ok (((store.cells area).drop address.toNat).take count) := if_pos inside
  refine ⟨⟨store, present, ?_⟩, fun interface status counters request asks => ?_,
    fun reach unit code behind reached reads same few => ?_⟩
  · rw [length, Store.read, read]
    rfl
  · rw [length] at asks
    exact Rest.handle_of_asksFor asks present read status
  · subst same
    rw [length] at few ⊢
    exact Modbus.answerBy_of_read reached present runs reads positive few fits behind

/-! ## All paths -/

/-- Values for a range of a memory that runs leave the same store on every path into the memory,
and afterwards every path out of it shows the same cells: the values where they were written, and
what was there before elsewhere. -/
theorem paths_agree {registry : Registry} {key : String} {store : Store}
    (present : registry.find? key = some store) (runs : store.state = .run) {write : AreaWrite}
    (positive : 0 < write.values.length) (counted : write.values.length ≤ 65535)
    (fits : write.address.toNat + write.values.length ≤ store.size write.area) :
    registry.Takes key store write ∧ Store.DiffersBy write store (store.after write) ∧
      ∀ (address : UInt16) (count : Nat), 0 < count →
        address.toNat + count ≤ store.size write.area → address.toNat + count < 2 ^ 64 →
          ∃ cells : List write.area.Cell, cells.length = count ∧
            (∀ offset, offset < count → cells[offset]? =
              (write.valueAt? write.area (address.toNat + offset)).or
                (store.cells write.area)[address.toNat + offset]?) ∧
            (registry.replace key (store.after write)).Shows key write.area address cells := by
  have admitted : store.admits write :=
    (store.inRange_iff_of_count _ _ positive (Nat.lt_succ_of_le counted)).2 fits
  refine ⟨Registry.takes present runs admitted, Store.differsBy_after admitted,
    fun address count asked inside countable => ?_⟩
  have left : (registry.replace key (store.after write)).find? key = some (store.after write) := by
    rw [Registry.find?_replace, if_pos rfl, present, Option.map_some]
  have size := Store.size_after admitted write.area
  have allowed : (store.after write).inRange write.area address count :=
    (Store.inRange_iff _ _ _ _).2 ⟨asked, by rw [size]; exact inside, countable⟩
  refine ⟨_, ?_, fun offset within => ?_,
    Registry.shows left (Store.state_after_of_run runs write) allowed⟩
  · rw [← size, Store.size] at inside
    rw [List.length_take, List.length_drop]
    omega
  · rw [List.getElem?_take_of_lt within, List.getElem?_drop, Store.getElem?_cells_after admitted]

/-- The last three of ten coils. -/
def lastThree : AreaWrite :=
  ⟨.coils, 7, [true, false, true]⟩

/-- Three coils are sent in one byte, in a frame with a padding of ones and in a Modbus request with
a padding of zeros, and by a command. They are read together with the coil before them. -/
theorem last_coils_agree :
    ∃ after size bytes zeros,
      RawIngest.apply Modbus.tenCoils ⟨⟨1, 0, .coils, 1, 7, 3⟩, [0xFD]⟩ = .ok after ∧
      Ingest.Command.ingest ⟨"1", "coils", 7, [1, 0, 1], []⟩ Modbus.tenCoils = .ok (3, after) ∧
      Modbus.answerBy (fun _ _ => some "1") 7 [15, 0, 7, 0, 3, 1, 0x05] Modbus.tenCoils =
        ([15, 0, 7, 0, 3], after) ∧
      Modbus.answerBy (fun _ _ => some "1") 7 [1, 0, 6, 0, 4] after = (1 :: size :: bytes, after) ∧
      Wire.Carries .coils bytes [false, true, false, true] (List.replicate zeros false) := by
  obtain ⟨takes, -, reads⟩ :=
    @paths_agree Modbus.tenCoils "1" (.ofLayout ⟨10, 0, 0, 0⟩ none) rfl rfl lastThree (by decide)
      (by decide) (by decide)
  obtain ⟨cells, length, values, shows⟩ := reads 6 4 (by decide) (by decide) (by decide)
  have four : cells = [false, true, false, true] := by
    apply List.ext_getElem?
    intro offset
    by_cases within : offset < 4
    · rw [values offset within]
      match offset, within with
      | 0, _ | 1, _ | 2, _ | 3, _ => rfl
    · rw [List.getElem?_eq_none (show cells.length ≤ offset by omega)]
      exact (List.getElem?_eq_none (Nat.not_lt.1 within)).symm
  subst four
  have framed := takes.frame ⟨⟨1, 0, .coils, 1, 7, 3⟩, [0xFD]⟩
    ⟨rfl, rfl, rfl, rfl, List.replicate 5 true, by decide, by decide⟩
  have commanded := takes.command ⟨"1", "coils", 7, [1, 0, 1], []⟩
    ⟨rfl, by decide, rfl, rfl, rfl⟩ rfl
  have requested := takes.multiple (fun _ _ => some "1") 7 15 [0x05] [] (List.replicate 5 false)
    rfl (by decide) rfl (by decide) ⟨rfl, by decide⟩
  obtain ⟨size, bytes, zeros, answered, -, carried⟩ :=
    shows.modbus (fun _ _ => some "1") 7 1 [] rfl (by decide) rfl (by decide)
  exact ⟨_, size, bytes, zeros, framed, commanded, requested, answered, carried⟩

end RegisterGateway
