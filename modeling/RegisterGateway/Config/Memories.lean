import RegisterGateway.Config.Validity
import RegisterGateway.Register.Registry

/-!
# Building the memories

Every configured memory becomes a store with the configured sizes, and with the configured
gate if sealing is enabled.
-/

namespace RegisterGateway.Config

/-- Why the memories of a configuration cannot be built. -/
inductive BuildError where
  | invalid (fault : Fault)
  | registry (error : RegistryError)
  deriving DecidableEq, Repr

/-- The sizes of the areas of a memory. -/
def MemorySettings.layout (settings : MemorySettings) : Layout where
  coils := settings.coils.size
  discreteInputs := settings.discreteInputs.size
  holdingRegisters := settings.holdingRegisters.size
  inputRegisters := settings.inputRegisters.size

/-- The store of a memory; the address of its gate must be a word. -/
def MemorySettings.store (settings : MemorySettings) (key : String) : Except Fault Store :=
  match settings.gate? with
  | none => .ok (.ofLayout settings.layout none)
  | some gate =>
      if gate.address < 65536 then
        .ok (.ofLayout settings.layout (some (UInt16.ofNat gate.address)))
      else .error (.gateTooLarge key gate.address)

/-- The memories of a configuration; the first default one becomes the default. -/
def Memories.build (memories : Memories) : Except BuildError Registry := do
  let stores ← (memories.mapM (fun key settings => settings.store key)).mapError .invalid
  match memories.defaultKey? with
  | none => .error (.invalid .noDefault)
  | some key => (Registry.make stores key).mapError .registry

end RegisterGateway.Config
