import RegisterGateway.RawIngest.Frame

/-!
# Frames on a stream

Frames follow each other on a stream without anything between them, so that one wrong length would
put every later frame out of step. `readFrame_eq_frame_iff` says what stands at the front of a
stream when a frame is read from it: the bytes of that frame, in which the reserved byte may be
anything. Writing frames and reading them back are inverse to each other by this alone.
-/

namespace RegisterGateway.RawIngest

theorem payloadSize_pos (area : Area) {count : Nat} (positive : 0 < count) :
    0 < payloadSize area count := by
  unfold payloadSize Wire.packedSize
  split <;> omega

/-! ## Headers -/

namespace Header

/-- The place of the reserved byte. -/
def reservedPlace : Nat := 5

@[simp] theorem length_encode (header : Header) : header.encode.length = byteCount := rfl

theorem encode_set_zero (header : Header) : header.encode.set reservedPlace 0 = header.encode := rfl

/-- Whatever its reserved byte is, a header is read back if its version is the current one and it
announces values; of two faults the version counts. -/
theorem parse_encode_set (header : Header) (reserved : UInt8) :
    parse (header.encode.set reservedPlace reserved) =
      if header.version ≠ currentVersion then .error (.unsupportedVersion header.version)
      else if header.count = 0 then .error .zeroCount
      else .ok header := by
  obtain ⟨version, flags, area, memoryId, address, count⟩ := header
  simp [encode, reservedPlace, parse, Wire.wordBytes, Wire.wordOfBytes_wordBytes]

/-- A header with a version that is read, and with values announced. -/
structure IsReadable (header : Header) : Prop where
  version : header.version = currentVersion
  count : header.count ≠ 0

theorem payloadSize_pos {header : Header} (readable : header.IsReadable) :
    0 < header.payloadSize := by
  apply RawIngest.payloadSize_pos
  apply Nat.pos_of_ne_zero
  intro zero
  exact readable.count (UInt16.toNat_inj.1 zero)

/-- What is read as a header are the bytes of that header, the reserved byte aside. -/
theorem parse_eq_ok_iff {bytes : List UInt8} {header : Header} :
    parse bytes = .ok header ↔
      header.IsReadable ∧ ∃ reserved, bytes = header.encode.set reservedPlace reserved := by
  constructor
  · intro parsed
    unfold parse at parsed
    split at parsed
    · rename_i m1 m0 version flags code reserved i1 i0 a1 a0 c1 c0
      split at parsed
      · contradiction
      · rename_i magic
        split at parsed
        · contradiction
        · rename_i current
          split at parsed
          · contradiction
          · rename_i area known
            simp only at parsed
            split at parsed
            · contradiction
            · rename_i counted
              cases parsed
              obtain ⟨high, low⟩ : m1 = magicHigh ∧ m0 = magicLow := by
                simpa using magic
              have areaCode := Area.ofCode?_eq_some_iff.1 known
              refine ⟨⟨by simpa using current, counted⟩, reserved, ?_⟩
              simp [encode, reservedPlace, areaCode, high, low]
    · contradiction
  · rintro ⟨⟨version, count⟩, reserved, rfl⟩
    rw [parse_encode_set, if_neg (not_not_intro version), if_neg count]

/-- Twelve bytes are never too few. -/
theorem parse_ne_truncated {bytes : List UInt8} (size : bytes.length = byteCount) :
    parse bytes ≠ .error .truncated := by
  intro truncated
  unfold parse at truncated
  split at truncated
  · split at truncated
    · cases truncated
    · split at truncated
      · cases truncated
      · split at truncated
        · cases truncated
        · simp only at truncated
          split at truncated <;> cases truncated
  · rename_i other
    match bytes, size with
    | [m1, m0, version, flags, area, reserved, i1, i0, a1, a0, c1, c0], _ =>
        exact other m1 m0 version flags area reserved i1 i0 a1 a0 c1 c0 rfl

/-- A header that is written is read back exactly if it is readable. -/
theorem parse_encode_iff (header : Header) :
    parse header.encode = .ok header ↔ header.IsReadable := by
  rw [parse_eq_ok_iff]
  constructor
  · rintro ⟨readable, -⟩
    exact readable
  · intro readable
    exact ⟨readable, 0, (encode_set_zero header).symm⟩

end Header

/-! ## Frames -/

namespace Frame

/-- The bytes of a frame with any byte in the reserved place of its header. -/
def encodeWith (frame : Frame) (reserved : UInt8) : List UInt8 :=
  frame.header.encode.set Header.reservedPlace reserved ++ frame.payload

/-- A frame that is read under a limit: its header is readable, its payload has the size that the
header announces, and both together do not exceed the limit. -/
structure Fits (limit : Nat) (frame : Frame) : Prop where
  readable : frame.header.IsReadable
  payload : frame.payload.length = frame.header.payloadSize
  size : Header.byteCount + frame.payload.length ≤ limit

variable {limit : Nat} {frame : Frame}

theorem length_encodeWith (fits : frame.Fits limit) (reserved : UInt8) :
    (frame.encodeWith reserved).length = Header.byteCount + frame.header.payloadSize := by
  rw [encodeWith, List.length_append, List.length_set, Header.length_encode, fits.payload]

/-- With the reserved byte put to zero the bytes of a frame are its encoding. -/
theorem encodeWith_set_zero (frame : Frame) (reserved : UInt8) :
    (frame.encodeWith reserved).set Header.reservedPlace 0 = frame.encode := by
  have inside : Header.reservedPlace <
      (frame.header.encode.set Header.reservedPlace reserved).length := by
    rw [List.length_set, Header.length_encode]
    decide
  rw [encodeWith, List.set_append_left _ _ inside, List.set_set, Header.encode_set_zero, encode]

end Frame

/-! ## The front of a stream -/

/-- What stands at the front of the bytes that have arrived. -/
inductive Front (limit : Nat) (stream : List UInt8) : Cut → Prop where
  | frame {frame : Frame} {reserved : UInt8} {rest : List UInt8} (fits : frame.Fits limit)
      (sent : stream = frame.encodeWith reserved ++ rest) : Front limit stream (.frame frame rest)
  /-- Twelve bytes that are no header. -/
  | badHeader {front rest : List UInt8} {reason : Rejection}
      (size : front.length = Header.byteCount) (parsed : Header.parse front = .error reason)
      (sent : stream = front ++ rest) : Front limit stream (.rejected reason rest)
  /-- A header of a frame that would exceed the limit. -/
  | tooLarge {header : Header} {reserved : UInt8} {rest : List UInt8}
      (readable : header.IsReadable) (large : limit < Header.byteCount + header.payloadSize)
      (sent : stream = header.encode.set Header.reservedPlace reserved ++ rest) :
      Front limit stream (.rejected (.frameTooLarge (Header.byteCount + header.payloadSize)) rest)
  /-- Fewer bytes than a header has. -/
  | shortHeader (short : stream.length < Header.byteCount) : Front limit stream .incomplete
  /-- A header and fewer bytes than it announces. -/
  | shortPayload {header : Header} {reserved : UInt8} {rest : List UInt8}
      (readable : header.IsReadable) (small : Header.byteCount + header.payloadSize ≤ limit)
      (sent : stream = header.encode.set Header.reservedPlace reserved ++ rest)
      (short : rest.length < header.payloadSize) : Front limit stream .incomplete

section Cutting

variable {limit : Nat} {stream rest : List UInt8} {frame : Frame} {found : Cut}

/-- Something stands at the front of every stream. -/
theorem Front.total (limit : Nat) (stream : List UInt8) : ∃ found, Front limit stream found := by
  by_cases short : stream.length < Header.byteCount
  · exact ⟨_, .shortHeader short⟩
  · have parts := (List.take_append_drop Header.byteCount stream).symm
    have size : (stream.take Header.byteCount).length = Header.byteCount := by
      rw [List.length_take]
      omega
    generalize stream.take Header.byteCount = front at parts size
    generalize stream.drop Header.byteCount = behind at parts
    cases parsed : Header.parse front with
    | error reason => exact ⟨_, .badHeader size parsed parts⟩
    | ok header =>
        obtain ⟨readable, reserved, rfl⟩ := Header.parse_eq_ok_iff.1 parsed
        by_cases large : limit < Header.byteCount + header.payloadSize
        · exact ⟨_, .tooLarge readable large parts⟩
        · by_cases missing : behind.length < header.payloadSize
          · exact ⟨_, .shortPayload readable (Nat.not_lt.1 large) parts missing⟩
          · have whole : (behind.take header.payloadSize).length = header.payloadSize := by
              rw [List.length_take]
              omega
            have fits : Frame.Fits limit ⟨header, behind.take header.payloadSize⟩ :=
              ⟨readable, whole, by simp only [whole]; omega⟩
            have sent : stream =
                Frame.encodeWith ⟨header, behind.take header.payloadSize⟩ reserved ++
                  behind.drop header.payloadSize := by
              rw [Frame.encodeWith, List.append_assoc, List.take_append_drop, parts]
            exact ⟨_, .frame fits sent⟩

/-- A limit under which some frame fits leaves room for a payload. -/
theorem Frame.Fits.roomy (fits : frame.Fits limit) : Header.byteCount < limit := by
  have positive := Header.payloadSize_pos fits.readable
  have size := fits.size
  rw [fits.payload] at size
  omega

theorem cut_of_front (roomy : Header.byteCount < limit) (front : Front limit stream found) :
    cut limit stream = found := by
  unfold cut
  rw [if_neg (Nat.not_le.2 roomy)]
  cases front with
  | @frame sentFrame reserved rest fits sent =>
      have parsed := Header.parse_eq_ok_iff.2 ⟨fits.readable, reserved, rfl⟩
      have small : ¬ limit < Header.byteCount + sentFrame.header.payloadSize := by
        rw [← fits.payload]
        exact Nat.not_lt.2 fits.size
      rw [sent, Frame.encodeWith, List.append_assoc, Wire.takeExact?_append (by simp)]
      simp only [parsed, if_neg small, Wire.takeExact?_append fits.payload]
  | badHeader size parsed sent =>
      rw [sent, Wire.takeExact?_append size]
      simp only [parsed]
  | @tooLarge header reserved rest readable large sent =>
      have parsed := Header.parse_eq_ok_iff.2 ⟨readable, reserved, rfl⟩
      rw [sent, Wire.takeExact?_append (by simp)]
      simp only [parsed, if_pos large]
  | shortHeader short =>
      rw [Wire.takeExact?_eq_none_iff.2 short]
  | @shortPayload header reserved rest readable small sent short =>
      have parsed := Header.parse_eq_ok_iff.2 ⟨readable, reserved, rfl⟩
      rw [sent, Wire.takeExact?_append (by simp)]
      simp only [parsed, if_neg (Nat.not_lt.2 small), Wire.takeExact?_eq_none_iff.2 short]

/-- What is cut off is what stands at the front. -/
theorem cut_eq_iff (roomy : Header.byteCount < limit) :
    cut limit stream = found ↔ Front limit stream found := by
  constructor
  · rintro rfl
    obtain ⟨found, front⟩ := Front.total limit stream
    rwa [cut_of_front roomy front]
  · exact cut_of_front roomy

/-- A frame is cut off exactly where the bytes of one stand that fits. -/
theorem cut_eq_frame_iff :
    cut limit stream = .frame frame rest ↔
      frame.Fits limit ∧ ∃ reserved, stream = frame.encodeWith reserved ++ rest := by
  constructor
  · intro taken
    by_cases roomy : Header.byteCount < limit
    · cases (cut_eq_iff roomy).1 taken with
      | frame fits sent => exact ⟨fits, _, sent⟩
    · unfold cut at taken
      rw [if_pos (Nat.not_lt.1 roomy)] at taken
      contradiction
  · rintro ⟨fits, reserved, sent⟩
    exact cut_of_front fits.roomy (.frame fits sent)

end Cutting

/-! ## Reading one frame -/

section Reading

variable {limit : Nat} {stream unread : List UInt8} {frame : Frame} {reason : Rejection}

/-- A frame is read exactly where the bytes of one stand that fits. -/
theorem readFrame_eq_frame_iff :
    readFrame limit stream = .frame frame unread ↔
      frame.Fits limit ∧ ∃ reserved, stream = frame.encodeWith reserved ++ unread := by
  rw [← cut_eq_frame_iff]
  unfold readFrame
  split
  · rename_i taken
    simp [taken]
  · rename_i taken
    simp [taken]
  · rename_i taken
    split <;> simp [taken]

/-- Why no frame can be read from a stream that has ended, and what is then unread: behind a header
that is refused everything, and nothing if the stream ends within a frame. -/
inductive Misframed (limit : Nat) (stream : List UInt8) : Rejection → List UInt8 → Prop where
  | refused {reason : Rejection} {unread : List UInt8}
      (front : Front limit stream (.rejected reason unread)) : Misframed limit stream reason unread
  | truncated (begun : stream ≠ []) (front : Front limit stream .incomplete) :
      Misframed limit stream .truncated []

/-- A refused header has been consumed and nothing behind it, a truncated frame as a whole. -/
theorem Misframed.consumed (faulty : Misframed limit stream reason unread) :
    reason = .truncated ∧ unread = [] ∨
      reason ≠ .truncated ∧
        ∃ front, front.length = Header.byteCount ∧ stream = front ++ unread := by
  cases faulty with
  | truncated begun front => exact .inl ⟨rfl, rfl⟩
  | refused front =>
      right
      cases front with
      | badHeader size parsed sent =>
          refine ⟨?_, _, size, sent⟩
          rintro rfl
          exact Header.parse_ne_truncated size parsed
      | tooLarge readable large sent => exact ⟨nofun, _, by simp, sent⟩

theorem readFrame_eq_rejected_iff (roomy : Header.byteCount < limit) :
    readFrame limit stream = .rejected reason unread ↔ Misframed limit stream reason unread := by
  constructor
  · intro read
    unfold readFrame at read
    split at read
    · contradiction
    · rename_i taken
      cases read
      exact .refused ((cut_eq_iff roomy).1 taken)
    · rename_i taken
      split at read
      · contradiction
      · rename_i begun
        cases read
        exact .truncated (by simpa using begun) ((cut_eq_iff roomy).1 taken)
  · rintro (⟨front⟩ | ⟨begun, front⟩)
    · simp only [readFrame, cut_of_front roomy front]
    · simp only [readFrame, cut_of_front roomy front]
      rw [if_neg (by simpa using begun)]

/-- Only where nothing is left does a stream end as it should. -/
theorem readFrame_eq_endOfStream_iff (roomy : Header.byteCount < limit) :
    readFrame limit stream = .endOfStream ↔ stream = [] := by
  constructor
  · intro ended
    unfold readFrame at ended
    split at ended
    · contradiction
    · contradiction
    · split at ended
      · rename_i empty
        exact List.isEmpty_iff.1 empty
      · contradiction
  · rintro rfl
    have front : Front limit [] .incomplete := .shortHeader (by decide)
    simp only [readFrame, cut_of_front roomy front]
    rfl

end Reading

/-! ## Reading whole streams -/

section Streams

variable {limit : Nat} {stream unread : List UInt8} {frame : Frame}

theorem readFrames_eq (limit : Nat) (stream : List UInt8) :
    readFrames limit stream =
      match readFrame limit stream with
      | .frame frame unread =>
          (frame :: (readFrames limit unread).1, (readFrames limit unread).2)
      | .endOfStream => ([], .clean)
      | .rejected reason unread => ([], .rejected reason unread) := by
  rw [readFrames]
  split
  · rename_i read
    simp only [read]
  · rename_i read
    simp only [read]
  · rename_i read
    simp only [read]

theorem readFrames_of_frame (read : readFrame limit stream = .frame frame unread) :
    readFrames limit stream =
      (frame :: (readFrames limit unread).1, (readFrames limit unread).2) := by
  simp only [readFrames_eq limit stream, read]

theorem readFrames_nil (roomy : Header.byteCount < limit) :
    readFrames limit [] = ([], .clean) := by
  simp only [readFrames_eq, (readFrame_eq_endOfStream_iff roomy).2]

/-- Frames in front of a stream are read first, in their order. -/
theorem readFrames_append (rest : List UInt8) {frames : List Frame}
    (fit : ∀ frame ∈ frames, frame.Fits limit) :
    readFrames limit (frames.flatMap Frame.encode ++ rest) =
      (frames ++ (readFrames limit rest).1, (readFrames limit rest).2) := by
  induction frames with
  | nil => rfl
  | cons frame later ih =>
      obtain ⟨fits, laterFit⟩ := List.forall_mem_cons.1 fit
      have read : readFrame limit ((frame :: later).flatMap Frame.encode ++ rest) =
          .frame frame (later.flatMap Frame.encode ++ rest) := by
        rw [List.flatMap_cons, List.append_assoc]
        exact readFrame_eq_frame_iff.2 ⟨fits, 0, rfl⟩
      rw [readFrames_of_frame read, ih laterFit, List.cons_append]

end Streams

/-- Frames that fit are read back from the stream of their encodings, and after them the stream
ends with nothing unread. What is read as a frame, from whatever stream, are the bytes of that
frame, its reserved byte aside. A header is read back exactly if its version is the current one
and it announces values. -/
theorem frames_survive_stream (limit : Nat) :
    (Header.byteCount < limit →
      (∀ frames : List Frame, (∀ frame ∈ frames, frame.Fits limit) →
        readFrames limit (frames.flatMap Frame.encode) = (frames, .clean)) ∧
      ∀ stream, readFrame limit stream = .endOfStream ↔ stream = []) ∧
    (∀ (stream : List UInt8) (frame : Frame) (unread : List UInt8),
      readFrame limit stream = .frame frame unread →
        ∃ consumed, stream = consumed ++ unread ∧
          consumed.length =
            Header.byteCount + payloadSize frame.header.area frame.header.count.toNat ∧
          consumed.length ≤ limit ∧ frame.encode = consumed.set 5 0) ∧
    ∀ header : Header,
      (Header.parse header.encode = .ok header ↔ header.version = 1 ∧ 0 < header.count) ∧
      (header.version ≠ 1 →
        Header.parse header.encode = .error (.unsupportedVersion header.version)) ∧
      (header.version = 1 → header.count = 0 → Header.parse header.encode = .error .zeroCount) := by
  refine ⟨fun roomy => ⟨fun frames fit => ?_, fun stream => readFrame_eq_endOfStream_iff roomy⟩,
    fun stream frame unread read => ?_, fun header => ?_⟩
  · have read := readFrames_append [] fit
    rwa [List.append_nil, readFrames_nil roomy, List.append_nil] at read
  · obtain ⟨fits, reserved, rfl⟩ := readFrame_eq_frame_iff.1 read
    have length := Frame.length_encodeWith fits reserved
    refine ⟨frame.encodeWith reserved, rfl, length, ?_, ?_⟩
    · rw [length, ← fits.payload]
      exact fits.size
    · exact (Frame.encodeWith_set_zero frame reserved).symm
  · have parsed := Header.parse_encode_set header 0
    rw [Header.encode_set_zero] at parsed
    refine ⟨?_, fun otherVersion => ?_, fun current noValues => ?_⟩
    · rw [Header.parse_encode_iff]
      constructor
      · intro readable
        exact ⟨readable.version, UInt16.pos_iff_ne_zero.2 readable.count⟩
      · rintro ⟨version, count⟩
        exact ⟨version, UInt16.pos_iff_ne_zero.1 count⟩
    · exact parsed.trans (if_pos otherVersion)
    · exact parsed.trans ((if_neg (not_not_intro current)).trans (if_pos noValues))

/-- A frame for three coils of the memory 258. -/
def threeCoils : Frame := ⟨⟨1, 7, .coils, 258, 0, 3⟩, [0xFD]⟩

/-- A frame for the last word of a memory and one behind it. -/
def twoWords : Frame := ⟨⟨1, 0, .inputRegisters, 1, 65535, 2⟩, [1, 2, 3, 4]⟩

/-- The second frame reaches the limit. The reserved byte of a frame is left out of it, and a header
of another version is refused for its version, though it announces no values either. -/
theorem two_frames_survive_stream :
    (∀ frame ∈ [threeCoils, twoWords], frame.Fits 16) ∧
      readFrames 16 [0x52, 0x49, 1, 7, 1, 0, 1, 2, 0, 0, 0, 3, 0xFD,
          0x52, 0x49, 1, 0, 4, 0, 0, 1, 0xFF, 0xFF, 0, 2, 1, 2, 3, 4] =
        ([threeCoils, twoWords], .clean) ∧
      readFrame 16 [0x52, 0x49, 1, 7, 1, 9, 1, 2, 0, 0, 0, 3, 0xFD, 0x52] =
        .frame threeCoils [0x52] ∧
      (∃ consumed, [0x52, 0x49, 1, 7, 1, 9, 1, 2, 0, 0, 0, 3, 0xFD, 0x52] = consumed ++ [0x52] ∧
        consumed.length = 13 ∧ consumed.length ≤ 16 ∧ threeCoils.encode = consumed.set 5 0) ∧
      Header.parse (Header.encode ⟨2, 0, .coils, 1, 0, 0⟩) = .error (.unsupportedVersion 2) := by
  have fit : ∀ frame ∈ [threeCoils, twoWords], frame.Fits 16 := by
    intro frame member
    simp only [List.mem_cons, List.not_mem_nil, or_false] at member
    rcases member with rfl | rfl
    · exact ⟨⟨rfl, by decide⟩, rfl, by decide⟩
    · exact ⟨⟨rfl, by decide⟩, rfl, by decide⟩
  have read : readFrame 16 [0x52, 0x49, 1, 7, 1, 9, 1, 2, 0, 0, 0, 3, 0xFD, 0x52] =
      .frame threeCoils [0x52] := by decide
  obtain ⟨roomy, cut, headers⟩ := frames_survive_stream 16
  refine ⟨fit, ?_, read, ?_, ?_⟩
  · exact (roomy (by decide)).1 [threeCoils, twoWords] fit
  · exact cut _ threeCoils [0x52] read
  · exact (headers ⟨2, 0, .coils, 1, 0, 0⟩).2.1 (by decide)

end RegisterGateway.RawIngest
