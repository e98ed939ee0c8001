import RegisterGateway.Proofs.Ingest.Writes
import RegisterGateway.Proofs.Net.Streams
import RegisterGateway.Proofs.RawIngest.Framing
import RegisterGateway.Proofs.Wire.Layout
import RegisterGateway.RawIngest.Stream

/-!
# Ingest conversations

A peer sends a stream of frames and closes. The stream is looked at frame by frame: each is one
write to one memory and is acknowledged, up to the end of the stream or to the first frame that
cannot be read or written, which is refused and ends the conversation.
-/

namespace RegisterGateway.RawIngest

open Net (Served)

/-! ## What a frame asks for -/

namespace Frame

/-- The key of the memory that a frame writes to. -/
def key (frame : Frame) : String :=
  toString frame.header.memoryId.toNat

/-- The values of a frame: as many as its header announces, each in its place of the payload. -/
def values (frame : Frame) : List frame.header.area.Cell :=
  Wire.cellsOf frame.payload frame.header.count.toNat frame.header.area

@[simp] theorem length_values (frame : Frame) :
    frame.values.length = frame.header.count.toNat :=
  Wire.length_cellsOf _ _ _

/-- The write that a frame asks for. -/
def write (frame : Frame) : AreaWrite :=
  ⟨frame.header.area, frame.header.address, frame.values⟩

theorem keyOfId_memoryId (frame : Frame) : Registry.keyOfId frame.header.memoryId = frame.key :=
  Text.decimal_eq_toString _

/-- Frames for different memories have different keys. -/
theorem memoryId_of_key {first second : Frame} (same : first.key = second.key) :
    first.header.memoryId = second.header.memoryId := by
  rw [← keyOfId_memoryId, ← keyOfId_memoryId] at same
  exact UInt16.toNat_inj.1 (Text.decimal_inj same)

/-- A payload of the announced size holds as many values as are announced. -/
theorem align_eq {frame : Frame} (size : frame.payload.length = frame.header.payloadSize) :
    align frame.header.area frame.payload frame.header.count = .ok frame.values := by
  obtain ⟨⟨version, flags, area, memoryId, address, count⟩, payload⟩ := frame
  cases area with
  | coils | discreteInputs =>
      have whole : payload.length = Wire.packedSize count.toNat := size
      simp only [align, alignBits, Wire.unpack?_eq, if_pos whole, values, Wire.cellsOf,
        Wire.unpack_eq_map_bitAt]
  | holdingRegisters | inputRegisters =>
      have whole : payload.length = 2 * count.toNat := size
      simp only [align, alignRegisters, if_pos whole, values, Wire.cellsOf,
        Wire.wordsOfBytes_eq_map_wordAt whole]

/-- Why a frame that has been read is refused: its memory is not there, or its range does not fit
the area. -/
inductive Refused (frame : Frame) (registry : Registry) : Rejection → Prop where
  | unknownMemory (missing : registry.find? frame.key = none) :
      Refused frame registry (.unknownMemory frame.header.memoryId)
  | outOfRange {store : Store} (present : registry.find? frame.key = some store)
      (outside : store.size frame.header.area <
        frame.header.address.toNat + frame.header.count.toNat) :
      Refused frame registry .writeFailed

/-! ## Applying a frame -/

variable {limit : Nat} {frame : Frame} {registry after : Registry} {reason : Rejection}

/-- The range of a frame fits an area that is large enough. -/
theorem admits_write_iff (readable : frame.header.IsReadable) (store : Store) :
    store.admits frame.write ↔
      frame.header.address.toNat + frame.header.count.toNat ≤ store.size frame.header.area := by
  have counted : 0 < frame.header.count.toNat :=
    Nat.pos_of_ne_zero fun zero => readable.count (UInt16.toNat_inj.1 zero)
  simp only [Store.admits, write, length_values]
  exact store.inRange_iff_of_count _ _ counted frame.header.count.toNat_lt

theorem apply_of_missing (missing : registry.find? frame.key = none) :
    apply registry frame = .error (.unknownMemory frame.header.memoryId) := by
  simp only [apply, keyOfId_memoryId, missing]

theorem applyTo_eq (size : frame.payload.length = frame.header.payloadSize) (store : Store) :
    applyTo store frame.header frame.payload =
      if store.inRange frame.header.area frame.header.address frame.values.length then
        .ok (store.after frame.write)
      else .error .writeFailed := by
  simp only [applyTo, align_eq size, bind, Except.bind, Store.writeCells_always]
  by_cases inside :
      store.inRange frame.header.area frame.header.address frame.values.length
  · simp only [if_pos inside]
    rfl
  · simp only [if_neg inside]

theorem apply_of_present (size : frame.payload.length = frame.header.payloadSize) {store : Store}
    (present : registry.find? frame.key = some store) :
    apply registry frame =
      if store.inRange frame.header.area frame.header.address frame.values.length then
        .ok (registry.replace frame.key (store.after frame.write))
      else .error .writeFailed := by
  simp only [apply, keyOfId_memoryId, present, applyTo_eq size]
  split <;> rfl

/-- A frame that has been read is applied or refused. -/
theorem wrote_or_refused (fits : frame.Fits limit) (registry : Registry) :
    (∃ after, registry.Wrote frame.key frame.write after) ∨
      ∃ reason, frame.Refused registry reason := by
  cases present : registry.find? frame.key with
  | none => exact .inr ⟨_, .unknownMemory present⟩
  | some store =>
      by_cases inside : frame.header.address.toNat + frame.header.count.toNat ≤
          store.size frame.header.area
      · exact .inl ⟨_, store, present, (admits_write_iff fits.readable store).2 inside, rfl⟩
      · exact .inr ⟨_, .outOfRange present (Nat.not_le.1 inside)⟩

/-- Applying a frame is the write that it asks for. -/
theorem apply_of_wrote (fits : frame.Fits limit)
    (wrote : registry.Wrote frame.key frame.write after) : apply registry frame = .ok after := by
  obtain ⟨store, present, admitted, rfl⟩ := wrote
  rw [apply_of_present fits.payload present]
  exact if_pos admitted

theorem apply_of_refused (fits : frame.Fits limit) (refused : frame.Refused registry reason) :
    apply registry frame = .error reason := by
  cases refused with
  | unknownMemory missing => exact apply_of_missing missing
  | @outOfRange store present outside =>
      rw [apply_of_present fits.payload present]
      refine if_neg fun inside => ?_
      exact Nat.not_le.2 outside ((admits_write_iff fits.readable store).1 inside)

/-- A frame that has been read always holds the values that it announces. -/
theorem apply_ne_misaligned (fits : frame.Fits limit) (registry : Registry) :
    apply registry frame ≠ .error .misaligned := by
  intro misaligned
  rcases wrote_or_refused fits registry with ⟨after, wrote⟩ | ⟨reason, refused⟩
  · rw [apply_of_wrote fits wrote] at misaligned
    contradiction
  · rw [apply_of_refused fits refused] at misaligned
    cases misaligned
    cases refused

end Frame

/-! ## Serving the front of a stream -/

section Serving

variable {limit : Nat} {stream rest : List UInt8} {frame : Frame} {plant : Plant}

/-- The plant after an applied frame. -/
def applied (plant : Plant) (registry : Registry) : Plant :=
  (plant.withRegistry registry).record .rawIngestFrame

theorem serve_eq (limit : Nat) (stream : List UInt8) (plant : Plant) :
    serve limit stream plant =
      match cut limit stream with
      | .frame frame rest =>
        match apply plant.registry frame with
        | .error _ => reject plant
        | .ok next => (serve limit rest (applied plant next)).behind [acknowledged]
      | .incomplete => ⟨[], plant, stream, true⟩
      | .rejected .. => reject plant := by
  rw [serve]
  split
  · rename_i frame rest taken
    simp only [taken]
    cases apply plant.registry frame <;> rfl
  · rename_i taken
    simp only [taken]
  · rename_i taken
    simp only [taken]

theorem serve_of_applied {next : Registry} (taken : cut limit stream = .frame frame rest)
    (written : apply plant.registry frame = .ok next) :
    serve limit stream plant = (serve limit rest (applied plant next)).behind [acknowledged] := by
  simp only [serve_eq limit stream, taken, written]

theorem serve_of_refused {reason : Rejection} (taken : cut limit stream = .frame frame rest)
    (failed : apply plant.registry frame = .error reason) :
    serve limit stream plant = reject plant := by
  simp only [serve_eq, taken, failed]

theorem serve_of_incomplete (taken : cut limit stream = .incomplete) :
    serve limit stream plant = ⟨[], plant, stream, true⟩ := by
  simp only [serve_eq, taken]

theorem serve_of_rejected {reason : Rejection} (taken : cut limit stream = .rejected reason rest) :
    serve limit stream plant = reject plant := by
  simp only [serve_eq, taken]

/-! ## Serving a stream to its end -/

theorem serveToEnd_nil (roomy : Header.byteCount < limit) :
    serveToEnd limit [] plant = .ended plant := by
  have nothing : cut limit [] = .incomplete := cut_of_front roomy (.shortHeader (by decide))
  rw [serveToEnd, serve_of_incomplete nothing]
  rfl

theorem serveToEnd_of_misframed (roomy : Header.byteCount < limit) {reason : Rejection}
    (faulty : Misframed limit stream reason rest) :
    serveToEnd limit stream plant = reject plant := by
  cases faulty with
  | refused front =>
      rw [serveToEnd, serve_of_rejected (cut_of_front roomy front)]
      rfl
  | truncated begun front =>
      rw [serveToEnd, serve_of_incomplete (cut_of_front roomy front)]
      simp only [Served.andThen, if_true, close,
        if_neg (fun empty => begun (List.isEmpty_iff.1 empty))]
      rfl

theorem serveToEnd_of_refused {reason : Rejection} (taken : cut limit stream = .frame frame rest)
    (failed : apply plant.registry frame = .error reason) :
    serveToEnd limit stream plant = reject plant := by
  rw [serveToEnd, serve_of_refused taken failed]
  rfl

theorem serveToEnd_of_applied {next : Registry} (taken : cut limit stream = .frame frame rest)
    (written : apply plant.registry frame = .ok next) :
    serveToEnd limit stream plant =
      (serveToEnd limit rest (applied plant next)).behind [acknowledged] := by
  rw [serveToEnd, serveToEnd, serve_of_applied taken written, Served.behind_andThen]

end Serving

/-! ## Conversations -/

/-- How a conversation ends. -/
inductive Ending where
  /-- The peer closes where a frame would begin. -/
  | closed
  /-- No frame can be read; some bytes stay unread. -/
  | unreadable (reason : Rejection) (unread : List UInt8)
  /-- A frame is read and cannot be applied; the bytes behind it stay unread. -/
  | turnedDown (frame : Frame) (reason : Rejection) (unread : List UInt8)

def Ending.replies : Ending → List UInt8
  | .closed => []
  | .unreadable .. | .turnedDown .. => [refused]

def Ending.events : Ending → List CountedEvent
  | .closed => []
  | .unreadable .. | .turnedDown .. => [.rawIngestRejected]

/-- What a conversation comes to: the frames that are applied, in their order, the memories after
them, and the end. -/
structure Course where
  applied : List Frame
  last : Registry
  ending : Ending

namespace Course

/-- A conversation that ends without a frame applied. -/
def ended (registry : Registry) (ending : Ending) : Course :=
  ⟨[], registry, ending⟩

/-- A conversation with one more frame applied in front. -/
def after (course : Course) (frame : Frame) : Course :=
  { course with applied := frame :: course.applied }

/-- The writes of a conversation, each with the key of its memory. -/
def writes (course : Course) : List (String × AreaWrite) :=
  course.applied.map fun frame => (frame.key, frame.write)

/-- One acknowledgement for each applied frame, and then what the end is answered. -/
def replies (course : Course) : List UInt8 :=
  List.replicate course.applied.length acknowledged ++ course.ending.replies

def events (course : Course) : List CountedEvent :=
  List.replicate course.applied.length .rawIngestFrame ++ course.ending.events

/-- What is left of a conversation. -/
def served (course : Course) (plant : Plant) : Served where
  replies := course.replies
  plant := ⟨course.last, plant.counters.recordAll course.events⟩
  waiting := []
  goesOn := false

end Course

/-- How a stream that ends with the peer's close is to be taken, with the memories as they are
when it begins. -/
inductive Conversation (limit : Nat) : List UInt8 → Registry → Course → Prop where
  | closed {stream : List UInt8} {registry : Registry} (ended : stream = []) :
      Conversation limit stream registry (.ended registry .closed)
  | unreadable {stream unread : List UInt8} {registry : Registry} {reason : Rejection}
      (faulty : Misframed limit stream reason unread) :
      Conversation limit stream registry (.ended registry (.unreadable reason unread))
  | turnedDown {stream unread : List UInt8} {registry : Registry} {frame : Frame}
      {reserved : UInt8} {reason : Rejection} (fits : frame.Fits limit)
      (sent : stream = frame.encodeWith reserved ++ unread)
      (refused : frame.Refused registry reason) :
      Conversation limit stream registry (.ended registry (.turnedDown frame reason unread))
  | applied {stream rest : List UInt8} {registry next : Registry} {frame : Frame}
      {reserved : UInt8} {course : Course} (fits : frame.Fits limit)
      (sent : stream = frame.encodeWith reserved ++ rest)
      (wrote : registry.Wrote frame.key frame.write next)
      (later : Conversation limit rest next course) :
      Conversation limit stream registry (course.after frame)

section Conversations

variable {limit : Nat} {stream : List UInt8} {registry : Registry} {course other : Course}

/-- A conversation begins as the first frame is read and applied. -/
theorem conversation_iff (roomy : Header.byteCount < limit) :
    Conversation limit stream registry course ↔
      match readFrame limit stream with
      | .endOfStream => course = .ended registry .closed
      | .rejected reason unread => course = .ended registry (.unreadable reason unread)
      | .frame frame unread =>
        match apply registry frame with
        | .error reason => course = .ended registry (.turnedDown frame reason unread)
        | .ok next =>
            ∃ later, Conversation limit unread next later ∧ course = later.after frame := by
  constructor
  · intro conversation
    cases conversation with
    | closed ended =>
        simp only [(readFrame_eq_endOfStream_iff roomy).2 ended]
    | unreadable faulty =>
        simp only [(readFrame_eq_rejected_iff roomy).2 faulty]
    | turnedDown fits sent refused =>
        simp only [readFrame_eq_frame_iff.2 ⟨fits, _, sent⟩, Frame.apply_of_refused fits refused]
    | applied fits sent wrote later =>
        simp only [readFrame_eq_frame_iff.2 ⟨fits, _, sent⟩, Frame.apply_of_wrote fits wrote]
        exact ⟨_, later, rfl⟩
  · intro begins
    cases read : readFrame limit stream with
    | endOfStream =>
        simp only [read] at begins
        rw [begins]
        exact .closed ((readFrame_eq_endOfStream_iff roomy).1 read)
    | rejected reason unread =>
        simp only [read] at begins
        rw [begins]
        exact .unreadable ((readFrame_eq_rejected_iff roomy).1 read)
    | frame frame unread =>
        obtain ⟨fits, reserved, sent⟩ := readFrame_eq_frame_iff.1 read
        rcases frame.wrote_or_refused fits registry with ⟨next, wrote⟩ | ⟨reason, refused⟩
        · simp only [read, Frame.apply_of_wrote fits wrote] at begins
          obtain ⟨later, conversation, rfl⟩ := begins
          exact .applied fits sent wrote conversation
        · simp only [read, Frame.apply_of_refused fits refused] at begins
          rw [begins]
          exact .turnedDown fits sent refused

/-- Every stream is some conversation. -/
theorem Conversation.total (roomy : Header.byteCount < limit) (stream : List UInt8)
    (registry : Registry) : ∃ course, Conversation limit stream registry course := by
  -- On the length of the stream, of which every frame takes something.
  induction size : stream.length using Nat.strongRecOn generalizing stream registry with
  | ind length ih =>
      subst size
      refine (exists_congr fun _ => conversation_iff roomy).2 ?_
      split
      · exact ⟨_, rfl⟩
      · exact ⟨_, rfl⟩
      · rename_i frame unread read
        split
        · exact ⟨_, rfl⟩
        · rename_i next _
          obtain ⟨later, conversation⟩ :=
            ih unread.length (length_unread_of_readFrame read) unread next rfl
          exact ⟨_, later, conversation, rfl⟩

/-- No stream is two different conversations. -/
theorem Conversation.unique (roomy : Header.byteCount < limit)
    (first : Conversation limit stream registry course)
    (second : Conversation limit stream registry other) : other = course := by
  induction first generalizing other with
  | closed ended =>
      rw [conversation_iff roomy] at second
      simpa only [(readFrame_eq_endOfStream_iff roomy).2 ended] using second
  | unreadable faulty =>
      rw [conversation_iff roomy] at second
      simpa only [(readFrame_eq_rejected_iff roomy).2 faulty] using second
  | turnedDown fits sent refused =>
      rw [conversation_iff roomy] at second
      simpa only [readFrame_eq_frame_iff.2 ⟨fits, _, sent⟩, Frame.apply_of_refused fits refused]
        using second
  | applied fits sent wrote later ih =>
      rw [conversation_iff roomy] at second
      simp only [readFrame_eq_frame_iff.2 ⟨fits, _, sent⟩, Frame.apply_of_wrote fits wrote]
        at second
      obtain ⟨otherLater, conversation, rfl⟩ := second
      rw [ih conversation]

/-- A stream is served as the conversation that it is. -/
theorem Conversation.serveToEnd_eq (roomy : Header.byteCount < limit) {plant : Plant}
    (conversation : Conversation limit stream plant.registry course) :
    serveToEnd limit stream plant = course.served plant := by
  generalize start : plant.registry = registry at conversation
  induction conversation generalizing plant with
  | closed ended =>
      subst start ended
      exact serveToEnd_nil roomy
  | unreadable faulty =>
      subst start
      exact serveToEnd_of_misframed roomy faulty
  | turnedDown fits sent refused =>
      subst start
      exact serveToEnd_of_refused (cut_eq_frame_iff.2 ⟨fits, _, sent⟩)
        (Frame.apply_of_refused fits refused)
  | applied fits sent wrote later ih =>
      subst start
      rw [serveToEnd_of_applied (cut_eq_frame_iff.2 ⟨fits, _, sent⟩)
        (Frame.apply_of_wrote fits wrote), ih rfl]
      rfl

/-- The memories after a conversation are those before it with the writes of the applied frames
made, one after the other. -/
theorem Conversation.follows (conversation : Conversation limit stream registry course) :
    registry.Follows course.writes course.last := by
  induction conversation with
  | closed | unreadable | turnedDown => exact .unchanged _
  | applied fits sent wrote later ih => exact (Registry.Follows.ofWrote wrote).append ih

/-- Every frame takes a header and one byte or more of the stream. -/
theorem Conversation.length_applied (conversation : Conversation limit stream registry course) :
    (Header.byteCount + 1) * course.applied.length ≤ stream.length := by
  induction conversation with
  | closed | unreadable | turnedDown => exact Nat.zero_le _
  | @applied stream rest registry next frame reserved course fits sent wrote later ih =>
      have size := Frame.length_encodeWith fits reserved
      have payload := Header.payloadSize_pos fits.readable
      rw [sent, List.length_append, size, Course.after, List.length_cons, Nat.mul_succ]
      omega

end Conversations

end RegisterGateway.RawIngest
