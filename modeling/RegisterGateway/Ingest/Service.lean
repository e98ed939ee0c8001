import RegisterGateway.Ingest.Command
import RegisterGateway.Register.Registry
import RegisterGateway.Text.Blank

/-!
# Carrying out ingest commands

A command is carried out in two looks at the registry. `check` compares the command with
the registry as it is and yields the write that it asks for; `commit` performs that write
unless the memory has been sealed in between. `ingest` is one directly after the other.
-/

namespace RegisterGateway.Ingest

/-- Why a command is refused. -/
inductive IngestError where
  | unknownMemory (key : String)
  | invalidArea (text : String)
  | invalidPayload
  | denied (area : Area)
  | payloadMismatch (area : Area)
  | invalidBoolean (value : Int64)
  | memory (error : StoreError)
  deriving DecidableEq, Repr

/-- The wording of a refusal. -/
def IngestError.message : IngestError → String
  | .unknownMemory key => "unknown memory: " ++ key
  | .invalidArea text => "invalid area: " ++ text
  | .invalidPayload => "invalid payload: exactly one of bools or values is required"
  | .denied area =>
      let name := area.name
      s!"ingest denied: {name} is not writable once memory is running"
  | .payloadMismatch area => "payload does not match area " ++ area.name
  | .invalidBoolean value =>
      let number := value.toInt
      s!"invalid numeric boolean: {number}"
  | .memory error => error.message

/-- The area that a text names, surrounding blanks aside. -/
def areaOf? (text : String) : Option Area :=
  Area.ofName? (Text.trim text)

/-- The bit that an integer denotes. -/
def bit (value : Int64) : Except IngestError Bool :=
  if value = 0 then .ok false
  else if value = 1 then .ok true
  else .error (.invalidBoolean value)

/-- The cells of an area that a command carries: bits for a bit area, words for a word area. -/
def Command.cellsFor (command : Command) : (area : Area) → Except IngestError (List area.Cell)
  | .coils =>
      if command.bools.isEmpty then .error (.payloadMismatch .coils) else command.bools.mapM bit
  | .discreteInputs =>
      if command.bools.isEmpty then .error (.payloadMismatch .discreteInputs)
      else command.bools.mapM bit
  | .holdingRegisters =>
      if command.values.isEmpty then .error (.payloadMismatch .holdingRegisters)
      else .ok command.values
  | .inputRegisters =>
      if command.values.isEmpty then .error (.payloadMismatch .inputRegisters)
      else .ok command.values

/-- A write that a command has been found to ask for. -/
structure PendingWrite where
  key : String
  area : Area
  address : UInt16
  values : List area.Cell

/-- The first look: the memory must exist, the area have a known name, exactly one of the two
lists hold values, the area not be sealed, and the values fit it. -/
def Command.check (command : Command) (registry : Registry) : Except IngestError PendingWrite :=
  match registry.find? command.memory with
  | none => .error (.unknownMemory command.memory)
  | some store =>
    match areaOf? command.area with
    | none => .error (.invalidArea command.area)
    | some area =>
      if command.bools.isEmpty = command.values.isEmpty then .error .invalidPayload
      else if area.isOperator && store.isSealed then .error (.denied area)
      else (command.cellsFor area).map (fun values =>
        ⟨command.memory, area, command.address, values⟩)

/-- The refusal of a command whose write a store refuses. -/
def IngestError.ofStoreError : StoreError → IngestError
  | .isSealed area => .denied area
  | error => .memory error

/-- The second look: performs the write and tells how many values were written. -/
def PendingWrite.commit (write : PendingWrite) (registry : Registry) :
    Except IngestError (Nat × Registry) :=
  match registry.find? write.key with
  | none => .error (.unknownMemory write.key)
  | some store =>
    match store.writeCells .unlessSealed write.area write.address write.values with
    | .ok changed => .ok (write.values.length, registry.replace write.key changed)
    | .error error => .error (.ofStoreError error)

/-- Carries out a command. -/
def Command.ingest (command : Command) (registry : Registry) :
    Except IngestError (Nat × Registry) := do
  let write ← command.check registry
  write.commit registry

end RegisterGateway.Ingest
