import RegisterGateway.Ingest.Service
import RegisterGateway.Proofs.Register.Writes
import RegisterGateway.Proofs.Results
import RegisterGateway.RawIngest.Frame

/-!
# The writes of frames and commands

A frame and a command ask for one write, which is decoded from their own content alone
(`asked?`). Where they succeed, that write has been made and nothing else.
-/

namespace RegisterGateway

/-! ## Frames -/

namespace RawIngest

/-- The write that a frame asks for, with the key of its memory. -/
def Frame.asked? (frame : Frame) : Option (String × AreaWrite) :=
  match align frame.header.area frame.payload frame.header.count with
  | .ok values =>
      some (Registry.keyOfId frame.header.memoryId,
        ⟨frame.header.area, frame.header.address, values⟩)
  | .error _ => none

/-- An applied frame has made the write that it asks for. -/
theorem written_of_apply {registry after : Registry} {frame : Frame}
    (applied : apply registry frame = .ok after) :
    ∃ key write, frame.asked? = some (key, write) ∧ registry.Wrote key write after := by
  simp only [apply] at applied
  split at applied
  · contradiction
  · rename_i store present
    obtain ⟨changed, appliedTo, rfl⟩ := map_eq_ok_iff.1 applied
    obtain ⟨values, aligned, stored⟩ := bind_eq_ok_iff.1 appliedTo
    split at stored
    · rename_i result written
      cases stored
      exact ⟨_, _, by rw [Frame.asked?, aligned], Registry.wrote_of_writeCells present written⟩
    · contradiction

end RawIngest

/-! ## Commands -/

namespace Ingest

/-- The write that a command asks for, with the key of its memory. -/
def Command.asked? (command : Command) : Option (String × AreaWrite) :=
  match areaOf? command.area with
  | none => none
  | some area =>
    match command.cellsFor area with
    | .ok values => some (command.memory, ⟨area, command.address, values⟩)
    | .error _ => none

/-- A check that succeeds yields the write that the command asks for. -/
theorem asked?_of_check {command : Command} {registry : Registry} {pending : PendingWrite}
    (checked : command.check registry = .ok pending) :
    command.asked? = some (pending.key, ⟨pending.area, pending.address, pending.values⟩) := by
  unfold Command.check at checked
  split at checked
  · contradiction
  · split at checked
    · contradiction
    · rename_i area named
      split at checked
      · contradiction
      · split at checked
        · contradiction
        · obtain ⟨values, carried, rfl⟩ := map_eq_ok_iff.1 checked
          rw [Command.asked?, named]
          simp only [carried]

/-- A command that is carried out has made the write that it asks for. -/
theorem written_of_ingest {command : Command} {registry after : Registry} {written : Nat}
    (ingested : command.ingest registry = .ok (written, after)) :
    ∃ key write, command.asked? = some (key, write) ∧ registry.Wrote key write after := by
  obtain ⟨pending, checked, committed⟩ := bind_eq_ok_iff.1 ingested
  unfold PendingWrite.commit at committed
  split at committed
  · contradiction
  · rename_i store present
    split at committed
    · rename_i changed stored
      cases committed
      exact ⟨_, _, asked?_of_check checked, Registry.wrote_of_writeCells present stored⟩
    · contradiction

/-- A command that is carried out tells how many values it has written. -/
theorem length_of_ingest {command : Command} {registry after : Registry} {written : Nat}
    {key : String} {write : AreaWrite} (ingested : command.ingest registry = .ok (written, after))
    (asked : command.asked? = some (key, write)) : written = write.values.length := by
  obtain ⟨pending, checked, committed⟩ := bind_eq_ok_iff.1 ingested
  rw [asked?_of_check checked] at asked
  cases asked
  unfold PendingWrite.commit at committed
  split at committed
  · contradiction
  · split at committed
    · cases committed
      rfl
    · contradiction

end Ingest

end RegisterGateway
