import RegisterGateway.RawIngest.Header
import RegisterGateway.Register.Registry
import RegisterGateway.Wire.Exact

/-!
# Ingest frames

Frames follow each other on a stream without separators. `cut` takes the first frame off
the bytes that have arrived; `readFrame` decides about a stream that has ended, where bytes
short of a frame are a truncated frame. Applying a frame is one write to one memory.
-/

namespace RegisterGateway.RawIngest

/-- A frame with its payload. -/
structure Frame where
  header : Header
  payload : List UInt8
  deriving DecidableEq, Repr

def Frame.encode (frame : Frame) : List UInt8 :=
  frame.header.encode ++ frame.payload

/-- What stands at the front of some bytes, with the bytes that come after it. -/
inductive Cut where
  | frame (frame : Frame) (rest : List UInt8)
  | incomplete
  | rejected (reason : Rejection) (rest : List UInt8)
  deriving DecidableEq, Repr

/-- Cuts the first frame off some bytes. A limit that leaves no room for a payload refuses
everything unread; a bad header or a frame above the limit is refused without its payload. -/
def cut (limit : Nat) (bytes : List UInt8) : Cut :=
  if limit ≤ Header.byteCount then .rejected (.frameTooLarge Header.byteCount) bytes
  else match Wire.takeExact? Header.byteCount bytes with
    | none => .incomplete
    | some (front, rest) =>
      match Header.parse front with
      | .error reason => .rejected reason rest
      | .ok header =>
        let size := Header.byteCount + header.payloadSize
        if limit < size then .rejected (.frameTooLarge size) rest
        else match Wire.takeExact? header.payloadSize rest with
          | none => .incomplete
          | some (payload, rest) => .frame ⟨header, payload⟩ rest

theorem length_rest_of_cut {limit : Nat} {bytes rest : List UInt8} {frame : Frame}
    (taken : cut limit bytes = .frame frame rest) : rest.length < bytes.length := by
  unfold cut at taken
  split at taken
  · contradiction
  · split at taken
    · contradiction
    · rename_i headerTaken
      split at taken
      · contradiction
      · simp only at taken
        split at taken
        · contradiction
        · split at taken
          · contradiction
          · rename_i payloadTaken
            simp only [Cut.frame.injEq] at taken
            obtain ⟨rfl, rfl⟩ := taken
            obtain ⟨rfl, size⟩ := Wire.takeExact?_eq_some_iff.1 headerTaken
            obtain ⟨rfl, _⟩ := Wire.takeExact?_eq_some_iff.1 payloadTaken
            simp only [List.length_append, size, Header.byteCount]
            omega

/-- What reading a frame from a stream that ends with the given bytes comes to. -/
inductive FrameRead where
  | frame (frame : Frame) (unread : List UInt8)
  | endOfStream
  | rejected (reason : Rejection) (unread : List UInt8)
  deriving DecidableEq, Repr

/-- Reads a frame from a stream that ends with the given bytes: the end is clean only where a
frame would begin. -/
def readFrame (limit : Nat) (bytes : List UInt8) : FrameRead :=
  match cut limit bytes with
  | .frame frame rest => .frame frame rest
  | .rejected reason rest => .rejected reason rest
  | .incomplete => if bytes.isEmpty then .endOfStream else .rejected .truncated []

theorem length_unread_of_readFrame {limit : Nat} {bytes unread : List UInt8} {frame : Frame}
    (read : readFrame limit bytes = .frame frame unread) : unread.length < bytes.length := by
  unfold readFrame at read
  split at read
  · rename_i taken
    simp only [FrameRead.frame.injEq] at read
    obtain ⟨rfl, rfl⟩ := read
    exact length_rest_of_cut taken
  · contradiction
  · split at read <;> contradiction

/-- How reading a stream to its last frame ends. -/
inductive StreamEnd where
  | clean
  | rejected (reason : Rejection) (unread : List UInt8)
  deriving DecidableEq, Repr

def readFrames (limit : Nat) (bytes : List UInt8) : List Frame × StreamEnd :=
  match read : readFrame limit bytes with
  | .frame frame unread =>
      have : unread.length < bytes.length := length_unread_of_readFrame read
      let (later, ending) := readFrames limit unread
      (frame :: later, ending)
  | .endOfStream => ([], .clean)
  | .rejected reason unread => ([], .rejected reason unread)
termination_by bytes.length

/-- The bits of a payload of exactly the bytes that they need. -/
def alignBits (payload : List UInt8) (count : UInt16) : Except Rejection (List Bool) :=
  match Wire.unpack? payload count.toNat with
  | some bits => .ok bits
  | none => .error .misaligned

/-- The words of a payload of exactly the bytes that they need. -/
def alignRegisters (payload : List UInt8) (count : UInt16) : Except Rejection (List UInt16) :=
  if payload.length = 2 * count.toNat then .ok (Wire.wordsOfBytes payload)
  else .error .misaligned

def align : (area : Area) → List UInt8 → UInt16 → Except Rejection (List area.Cell)
  | .coils => alignBits
  | .discreteInputs => alignBits
  | .holdingRegisters => alignRegisters
  | .inputRegisters => alignRegisters

/-- Writes the values of a frame to a store. -/
def applyTo (store : Store) (header : Header) (payload : List UInt8) : Except Rejection Store := do
  let values ← align header.area payload header.count
  match store.writeCells .always header.area header.address values with
  | .ok changed => .ok changed
  | .error _ => .error .writeFailed

/-- Writes the values of a frame to the memory whose key is the plain decimal form of the
frame's memory id. -/
def apply (registry : Registry) (frame : Frame) : Except Rejection Registry :=
  let key := Registry.keyOfId frame.header.memoryId
  match registry.find? key with
  | none => .error (.unknownMemory frame.header.memoryId)
  | some store => (applyTo store frame.header frame.payload).map (registry.replace key)

end RegisterGateway.RawIngest
