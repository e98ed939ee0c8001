import RegisterGateway.Proofs.RawIngest.Conversation
import RegisterGateway.RawIngest.Listener

/-!
# Streams as they arrive

The bytes of a stream arrive in pieces that are cut anywhere. A listener serves what is complete
and lets the rest wait. Whatever the pieces are, all of them together come to what the stream as a
whole comes to; the main statement says what that is.
-/

namespace RegisterGateway

open Net (Waits GoesByFront)

namespace RawIngest

/-! ## Frames at the front of a stream -/

section Front

variable {limit : Nat} {bytes rest : List UInt8}

theorem cut_append_of_frame {frame : Frame} (taken : cut limit bytes = .frame frame rest)
    (more : List UInt8) : cut limit (bytes ++ more) = .frame frame (rest ++ more) := by
  obtain ⟨fits, reserved, rfl⟩ := cut_eq_frame_iff.1 taken
  exact cut_eq_frame_iff.2 ⟨fits, reserved, List.append_assoc _ _ _⟩

theorem cut_append_of_rejected {reason : Rejection}
    (taken : cut limit bytes = .rejected reason rest) (more : List UInt8) :
    cut limit (bytes ++ more) = .rejected reason (rest ++ more) := by
  by_cases roomy : Header.byteCount < limit
  · rw [cut_eq_iff roomy] at taken ⊢
    cases taken with
    | badHeader size parsed sent =>
        exact .badHeader size parsed (by rw [sent, List.append_assoc])
    | tooLarge readable large sent =>
        exact .tooLarge readable large (by rw [sent, List.append_assoc])
  · rw [cut, if_pos (Nat.not_lt.1 roomy)] at taken ⊢
    cases taken
    rfl

/-- Frames are served one by one as they stand at the front of a stream. -/
theorem goesByFront_serve (limit : Nat) : GoesByFront (serve limit) := by
  intro bytes plant
  cases taken : cut limit bytes with
  | incomplete => exact .waits fun later => serve_of_incomplete taken
  | rejected reason rest =>
      exact .ends rfl fun more => serve_of_rejected (cut_append_of_rejected taken more)
  | frame frame rest =>
      have found := cut_append_of_frame taken
      cases written : apply plant.registry frame with
      | error reason => exact .ends rfl fun more => serve_of_refused (found more) written
      | ok next =>
          exact .answers (length_rest_of_cut taken) fun more =>
            serve_of_applied (found more) written

theorem ended_close (waiting : List UInt8) (plant : Plant) :
    (close waiting plant).goesOn = false := by
  unfold close
  split <;> rfl

end Front

/-- How ingest listeners serve their connections. -/
def Listener.protocol : Net.Protocol Listener ListenerEvent where
  step := step
  connections := connections
  withConnections := withConnections
  received := .received
  closed := .closed
  serve listener := RawIngest.serve listener.settings.maxPacketBytes
  close := RawIngest.close
  connections_with _ _ := rfl
  serve_with _ _ := rfl
  step_received _ _ _ _ := rfl
  step_closed _ _ _ := rfl
  goesByFront _ := goesByFront_serve _
  ended_close := RawIngest.ended_close

/-! ## Whole conversations -/

/-- What is known of the conversation that a stream is. -/
structure Conducted (limit : Nat) (stream : List UInt8) (plant : Plant) (course : Course) :
    Prop where
  conversation : Conversation limit stream plant.registry course
  unique : ∀ other, Conversation limit stream plant.registry other → other = course
  served : serveToEnd limit stream plant = course.served plant
  /-- In whatever pieces the stream arrives, the listener sends the same bytes and leaves the same
  plant, and the connection has ended. -/
  arrived : ∀ (listener : Listener) (number : Nat) (pieces : List (List UInt8)),
    listener.settings.maxPacketBytes = limit →
      listener.connections.waiting? number = some [] → pieces.flatten = stream →
        Listener.protocol.Ended number (course.served plant).replies (course.served plant).plant
          (sequence Listener.protocol.hear (Listener.protocol.arrivals number pieces)
            (listener, plant))
  /-- The memories are those from before with one write made for each applied frame. -/
  follows : plant.registry.Follows course.writes course.last
  untouched : ∀ key, (∀ frame ∈ course.applied, frame.key ≠ key) →
    course.last.find? key = plant.registry.find? key
  bounded : (Header.byteCount + 1) * course.applied.length ≤ stream.length

theorem Conversation.conducted {limit : Nat} (roomy : Header.byteCount < limit)
    {stream : List UInt8} {plant : Plant} {course : Course}
    (conversation : Conversation limit stream plant.registry course) :
    Conducted limit stream plant course where
  conversation := conversation
  unique other second := conversation.unique roomy second
  served := conversation.serveToEnd_eq roomy
  arrived listener number pieces limited isOpen together := by
    subst limited
    have nothing : Waits (Listener.protocol.serve listener) [] := fun later =>
      serve_of_incomplete (cut_of_front roomy (.shortHeader (by decide)))
    have ended := Listener.protocol.ended_of_waiting isOpen nothing pieces plant
    rw [List.nil_append, together] at ended
    rwa [← conversation.serveToEnd_eq roomy]
  follows := conversation.follows
  untouched key unnamed := by
    have nothing : writesTo key course.writes = [] := by
      apply List.eq_nil_iff_forall_not_mem.2
      intro write member
      obtain ⟨frame, applied, same⟩ := List.mem_map.1 (mem_writesTo_iff.1 member)
      exact unnamed frame applied (Prod.ext_iff.1 same).1
    rw [conversation.follows.memory, nothing]
    cases plant.registry.find? key <;> rfl
  bounded := conversation.length_applied

/-- Every stream is exactly one conversation and is served as it. No frame is read where one is
refused or the stream ends early; what is read as a frame holds the values that it announces, and
frames with different memory ids go to different memories. -/
theorem stream_is_one_conversation {limit : Nat} (roomy : Header.byteCount < limit)
    (stream : List UInt8) (plant : Plant) :
    (∃ course, Conducted limit stream plant course) ∧
      (∀ reason unread, readFrame limit stream = .rejected reason unread →
        reason = .truncated ∧ unread = [] ∨
          reason ≠ .truncated ∧
            ∃ front, front.length = Header.byteCount ∧ stream = front ++ unread) ∧
      (∀ frame unread, readFrame limit stream = .frame frame unread →
        align frame.header.area frame.payload frame.header.count = .ok frame.values ∧
          ∀ registry, apply registry frame ≠ .error .misaligned) ∧
      ∀ first second : Frame, first.key = second.key →
        first.header.memoryId = second.header.memoryId := by
  refine ⟨?_, ?_, ?_, fun first second => Frame.memoryId_of_key⟩
  · obtain ⟨course, conversation⟩ := Conversation.total roomy stream plant.registry
    exact ⟨course, conversation.conducted roomy⟩
  · intro reason unread rejected
    exact ((readFrame_eq_rejected_iff roomy).1 rejected).consumed
  · intro frame unread read
    obtain ⟨fits, -⟩ := readFrame_eq_frame_iff.1 read
    exact ⟨Frame.align_eq fits.payload, Frame.apply_ne_misaligned fits⟩

/-- Two memories, of eight input registers and of three coils. -/
def numberedMemories : Registry :=
  ⟨.ofList [("1", .ofLayout ⟨0, 0, 0, 8⟩ none), ("258", .ofLayout ⟨3, 0, 0, 0⟩ none)], "1"⟩

/-- The second of two frames does not fit its memory; the byte behind it stays unread. -/
theorem second_frame_turned_down :
    ∃ course, Conducted 16 (threeCoils.encodeWith 9 ++ (twoWords.encodeWith 0 ++ [7]))
        ⟨numberedMemories, {}⟩ course ∧
      course.applied = [threeCoils] ∧ course.ending = .turnedDown twoWords .writeFailed [7] ∧
      course.replies = [0x00, 0x01] ∧
      (course.last.find? "258").map Store.coils = some [true, false, true] := by
  have roomy : Header.byteCount < 16 := by decide
  obtain ⟨⟨course, conducted⟩, -⟩ := stream_is_one_conversation roomy
    (threeCoils.encodeWith 9 ++ (twoWords.encodeWith 0 ++ [7])) ⟨numberedMemories, {}⟩
  have coilsFit : threeCoils.Fits 16 := ⟨⟨rfl, by decide⟩, rfl, by decide⟩
  have wordsFit : twoWords.Fits 16 := ⟨⟨rfl, by decide⟩, rfl, by decide⟩
  have same := conducted.unique _ (.applied coilsFit rfl ⟨_, rfl, rfl, rfl⟩
    (.turnedDown wordsFit rfl (.outOfRange rfl (by decide))))
  subst same
  exact ⟨_, conducted, rfl, rfl, rfl, by decide⟩

end RawIngest

end RegisterGateway
