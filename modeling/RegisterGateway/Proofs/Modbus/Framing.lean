import RegisterGateway.Modbus.Stream

/-!
# Messages on a Modbus connection

Requests and responses are messages: a transaction id, a unit id, and one to 253 bytes, with their
number in front. The number tells where a message ends, so that a stream begins with one message at
most, and can be cut into messages in one way only. By `cut_eq_request_iff` a request is taken off
a stream exactly where a message stands at its front.
-/

namespace RegisterGateway.Modbus

/-! ## Headers -/

namespace Header

@[simp] theorem length_encode (header : Header) : header.encode.length = byteCount := rfl

theorem read?_encode_append (header : Header) (rest : List UInt8) :
    read? (header.encode ++ rest) = some (header, rest) := by
  obtain ⟨transactionId, protocolId, length, unitId⟩ := header
  simp [encode, read?, Wire.wordBytes, Wire.wordOfBytes_wordBytes]

/-- What is read as a header are the bytes of that header. -/
theorem read?_eq_some_iff {bytes rest : List UInt8} {header : Header} :
    read? bytes = some (header, rest) ↔ bytes = header.encode ++ rest := by
  constructor
  · intro taken
    unfold read? at taken
    split at taken
    · cases taken
      simp [encode]
    · contradiction
  · rintro rfl
    exact read?_encode_append header rest

theorem read?_eq_none_iff {bytes : List UInt8} :
    read? bytes = none ↔ bytes.length < byteCount := by
  constructor
  · intro missing
    refine Nat.not_le.1 fun enough => ?_
    match bytes, enough with
    | _ :: _ :: _ :: _ :: _ :: _ :: _ :: _, _ => contradiction
  · intro short
    cases taken : read? bytes with
    | none => rfl
    | some parts =>
        have size := length_of_read? taken
        omega

/-- A header that a request may follow: its protocol id is zero, and its length is that of a unit
id and of one to 253 bytes. -/
structure Announces (header : Header) (size : Nat) : Prop where
  protocolId : header.protocolId = 0
  length : header.length.toNat = size + 1
  positive : 1 ≤ size
  small : size ≤ 253

theorem bodyLength_eq_ok_iff {header : Header} {size : Nat} :
    header.bodyLength = .ok size ↔ header.Announces size := by
  unfold bodyLength maxLength
  constructor
  · intro checked
    split at checked
    · contradiction
    · rename_i protocolId
      split at checked
      · contradiction
      · cases checked
        exact ⟨Decidable.not_not.1 protocolId, by omega, by omega, by omega⟩
  · rintro ⟨protocolId, length, positive, small⟩
    rw [if_neg (not_not_intro protocolId), if_neg (by omega), length, Nat.add_sub_cancel]

end Header

/-! ## Messages -/

/-- A request or a response on a connection. -/
structure Message where
  transactionId : UInt16
  unitId : UInt8
  body : List UInt8
  nonempty : 1 ≤ body.length
  short : body.length ≤ 253
  deriving DecidableEq

namespace Message

/-- The header of a message counts the unit id and the bytes of the body. -/
def header (message : Message) : Header :=
  ⟨message.transactionId, 0, UInt16.ofNat (message.body.length + 1), message.unitId⟩

/-- The bytes of a message: both ids and the number of the bytes that follow it, the protocol id
being zero, and the body. -/
def bytes (message : Message) : List UInt8 :=
  Wire.wordBytes message.transactionId ++ [0, 0] ++
    Wire.wordBytes (UInt16.ofNat (message.body.length + 1)) ++ [message.unitId] ++ message.body

variable {first second message : Message} {rest : List UInt8}

theorem bytes_eq (message : Message) :
    message.bytes = message.header.encode ++ message.body := by
  have zero : Wire.wordBytes 0 = [0, 0] := by decide
  rw [bytes, header, Header.encode, zero]

theorem bytes_ne_nil (message : Message) : message.bytes ≠ [] := nofun

theorem announces (message : Message) : message.header.Announces message.body.length where
  protocolId := rfl
  length := by
    have short := message.short
    rw [header, UInt16.toNat_ofNat']
    omega
  positive := message.nonempty
  small := message.short

/-- A header that announces some bytes and so many bytes are a message. -/
theorem exists_of_announces {header : Header} {body : List UInt8}
    (announces : header.Announces body.length) :
    ∃ message : Message, message.header = header ∧ message.body = body := by
  obtain ⟨transactionId, protocolId, length, unitId⟩ := header
  obtain ⟨rfl, counted, positive, small⟩ := announces
  refine ⟨⟨transactionId, unitId, body, positive, small⟩, ?_, rfl⟩
  have number : UInt16.ofNat (body.length + 1) = length := by
    rw [← counted, UInt16.ofNat_toNat]
  rw [header, number]

theorem ext_header (sameHeader : first.header = second.header)
    (sameBody : first.body = second.body) : first = second := by
  obtain ⟨transactionId, unitId, body, _, _⟩ := first
  obtain ⟨otherId, otherUnit, otherBody, _, _⟩ := second
  simp only [header, Header.mk.injEq] at sameHeader sameBody
  obtain ⟨rfl, -, -, rfl⟩ := sameHeader
  subst sameBody
  rfl

end Message

/-! ## The front of a stream -/

section Cutting

variable {stream rest : List UInt8}

/-- A request is taken off exactly where the bytes of a message stand. -/
theorem cut_eq_request_iff {header : Header} {body : List UInt8} :
    cut stream = .request header body rest ↔
      ∃ message : Message, message.header = header ∧ message.body = body ∧
        stream = message.bytes ++ rest := by
  constructor
  · intro taken
    unfold cut at taken
    split at taken
    · contradiction
    · rename_i found behind read
      split at taken
      · contradiction
      · rename_i size checked
        split at taken
        · contradiction
        · rename_i front after exactly
          cases taken
          obtain ⟨parts, counted⟩ := Wire.takeExact?_eq_some_iff.1 exactly
          subst parts counted
          obtain ⟨message, rfl, rfl⟩ :=
            Message.exists_of_announces (Header.bodyLength_eq_ok_iff.1 checked)
          refine ⟨message, rfl, rfl, ?_⟩
          rw [Header.read?_eq_some_iff.1 read, Message.bytes_eq, List.append_assoc]
  · rintro ⟨message, rfl, rfl, rfl⟩
    rw [cut, Message.bytes_eq, List.append_assoc, Header.read?_encode_append]
    simp only [Header.bodyLength_eq_ok_iff.2 message.announces, Wire.takeExact?_append rfl]

@[simp] theorem cut_bytes_append (message : Message) (rest : List UInt8) :
    cut (message.bytes ++ rest) = .request message.header message.body rest :=
  cut_eq_request_iff.2 ⟨message, rfl, rfl, rfl⟩

/-- No stream begins with two messages. -/
theorem Message.eq_of_bytes_append {first second : Message} {more : List UInt8}
    (same : first.bytes ++ rest = second.bytes ++ more) : first = second ∧ rest = more := by
  have taken := cut_bytes_append first rest
  rw [same, cut_bytes_append] at taken
  injection taken with sameHeader sameBody sameRest
  exact ⟨ext_header sameHeader.symm sameBody.symm, sameRest.symm⟩

/-- What stands at the front of a stream that does not begin with a message. -/
inductive NoMessage (stream : List UInt8) : Cut → Prop where
  /-- Fewer bytes than a header has, or none at all. -/
  | shortHeader (short : stream.length < Header.byteCount) : NoMessage stream .incomplete
  /-- A header and fewer bytes than it announces. -/
  | shortBody {header : Header} {size : Nat} {behind : List UInt8}
      (announces : header.Announces size) (short : behind.length < size)
      (sent : stream = header.encode ++ behind) : NoMessage stream .incomplete
  /-- A header of another protocol. -/
  | otherProtocol {header : Header} {behind : List UInt8} (other : header.protocolId ≠ 0)
      (sent : stream = header.encode ++ behind) :
      NoMessage stream (.malformed (.unexpectedProtocolId header.protocolId))
  /-- A header that announces no byte behind the unit id, or too many. -/
  | badLength {header : Header} {behind : List UInt8} (protocolId : header.protocolId = 0)
      (outside : header.length.toNat < 2 ∨ 254 < header.length.toNat)
      (sent : stream = header.encode ++ behind) :
      NoMessage stream (.malformed (.invalidLength header.length))

theorem cut_of_noMessage {found : Cut} (front : NoMessage stream found) : cut stream = found := by
  unfold cut
  cases front with
  | shortHeader short => rw [Header.read?_eq_none_iff.2 short]
  | shortBody announces short sent =>
      rw [sent, Header.read?_encode_append]
      simp only [Header.bodyLength_eq_ok_iff.2 announces, Wire.takeExact?_eq_none_iff.2 short]
  | otherProtocol other sent =>
      rw [sent, Header.read?_encode_append]
      simp only [Header.bodyLength, if_pos other]
  | @badLength header behind protocolId outside sent =>
      rw [sent, Header.read?_encode_append]
      have refused : header.bodyLength = .error (.invalidLength header.length) := by
        rw [Header.bodyLength, if_neg (not_not_intro protocolId)]
        exact if_pos outside
      simp only [refused]

theorem NoMessage.ne_bytes_append {found : Cut} (front : NoMessage stream found)
    {message : Message} {more : List UInt8} : stream ≠ message.bytes ++ more := by
  rintro rfl
  have taken := cut_of_noMessage front
  rw [cut_bytes_append] at taken
  subst taken
  cases front

/-- A stream begins with a message, or with something that is none. -/
theorem message_or_noMessage (stream : List UInt8) :
    (∃ (message : Message) (rest : List UInt8), stream = message.bytes ++ rest) ∨
      ∃ found, NoMessage stream found := by
  cases read : Header.read? stream with
  | none => exact .inr ⟨_, .shortHeader (Header.read?_eq_none_iff.1 read)⟩
  | some parts =>
      obtain ⟨header, behind⟩ := parts
      have sent := Header.read?_eq_some_iff.1 read
      by_cases protocolId : header.protocolId = 0
      · by_cases outside : header.length.toNat < 2 ∨ 254 < header.length.toNat
        · exact .inr ⟨_, .badLength protocolId outside sent⟩
        · have announces : header.Announces (header.length.toNat - 1) :=
            ⟨protocolId, by omega, by omega, by omega⟩
          by_cases short : behind.length < header.length.toNat - 1
          · exact .inr ⟨_, .shortBody announces short sent⟩
          · have whole : (behind.take (header.length.toNat - 1)).length =
                header.length.toNat - 1 := by
              rw [List.length_take]
              omega
            rw [← whole] at announces
            obtain ⟨message, sameHeader, sameBody⟩ := Message.exists_of_announces announces
            refine .inl ⟨message, behind.drop (header.length.toNat - 1), ?_⟩
            rw [Message.bytes_eq, sameHeader, sameBody, List.append_assoc,
              List.take_append_drop, sent]
      · exact .inr ⟨_, .otherProtocol protocolId sent⟩

end Cutting

/-! ## Whole streams -/

/-- A stream is some messages, one directly after the other, and then bytes with no message at
their front. -/
structure Divides (stream : List UInt8) (messages : List Message) (rest : List UInt8) : Prop where
  sent : stream = messages.flatMap Message.bytes ++ rest
  exhausted : ∀ (message : Message) (more : List UInt8), rest ≠ message.bytes ++ more

namespace Divides

variable {stream rest : List UInt8} {messages : List Message}

/-- A stream of messages and nothing else. -/
theorem ofMessages (messages : List Message) :
    Divides (messages.flatMap Message.bytes) messages [] where
  sent := (List.append_nil _).symm
  exhausted message _ empty :=
    message.bytes_ne_nil (List.append_eq_nil_iff.1 empty.symm).1

theorem cons (message : Message) (divides : Divides stream messages rest) :
    Divides (message.bytes ++ stream) (message :: messages) rest where
  sent := by rw [divides.sent, List.flatMap_cons, List.append_assoc]
  exhausted := divides.exhausted

/-- Every stream can be cut. -/
theorem total (stream : List UInt8) : ∃ messages rest, Divides stream messages rest := by
  induction size : stream.length using Nat.strongRecOn generalizing stream with
  | ind length ih =>
      subst size
      by_cases begins : ∃ (message : Message) (rest : List UInt8), stream = message.bytes ++ rest
      · obtain ⟨message, rest, rfl⟩ := begins
        have shorter := length_rest_of_cut (cut_bytes_append message rest)
        obtain ⟨messages, left, divides⟩ := ih rest.length shorter rest rfl
        exact ⟨message :: messages, left, divides.cons message⟩
      · exact ⟨[], stream, rfl, fun message more sent => begins ⟨message, more, sent⟩⟩

/-- A stream can be cut in one way only. -/
theorem unique {others : List Message} {more : List UInt8}
    (first : Divides stream messages rest) (second : Divides stream others more) :
    messages = others ∧ rest = more := by
  obtain ⟨sent, exhausted⟩ := first
  obtain ⟨sentToo, exhaustedToo⟩ := second
  rw [sent] at sentToo
  clear sent
  induction messages generalizing others with
  | nil =>
      cases others with
      | nil => exact ⟨rfl, sentToo⟩
      | cons message later =>
          rw [List.flatMap_cons, List.append_assoc] at sentToo
          exact absurd sentToo (exhausted message _)
  | cons message later ih =>
      cases others with
      | nil =>
          rw [List.flatMap_cons, List.append_assoc] at sentToo
          exact absurd sentToo.symm (exhaustedToo message _)
      | cons other othersLater =>
          simp only [List.flatMap_cons, List.append_assoc] at sentToo
          obtain ⟨rfl, behind⟩ := Message.eq_of_bytes_append sentToo
          obtain ⟨rfl, rfl⟩ := ih behind
          exact ⟨rfl, rfl⟩

/-- What is left over is no message: too few bytes for a header or for what it announces, or a
header that no request may follow. -/
theorem noMessage (divides : Divides stream messages rest) : ∃ found, NoMessage rest found := by
  rcases message_or_noMessage rest with ⟨message, more, sent⟩ | left
  · exact absurd sent (divides.exhausted message more)
  · exact left

end Divides

end RegisterGateway.Modbus
