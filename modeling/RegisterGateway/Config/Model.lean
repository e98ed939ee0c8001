import RegisterGateway.Access.Policy
import RegisterGateway.Ordered.Table
import RegisterGateway.Register.Area

/-!
# Configurations

What a gateway is told before it starts: its memories, where units are routed, what the
listening ports allow, and the settings of the three other entrances. What is left out has
the default given here.
-/

namespace RegisterGateway.Config

/-- The settings of one register area. The start is shown in diagnostics only; addresses
always count from zero. -/
structure AreaSettings where
  start : UInt16 := 0
  size : Nat := 0
  deriving DecidableEq, Repr

/-- Where the gate of a memory is, as it was written. -/
structure GateSettings where
  area : String := ""
  address : Nat := 0
  deriving DecidableEq, Repr

/-- Whether a memory is sealed once it runs, and by which gate its run begins. -/
structure SealingSettings where
  enabled : Bool := false
  gate : GateSettings := {}
  deriving DecidableEq, Repr

/-- The settings of one memory. -/
structure MemorySettings where
  isDefault : Bool := false
  coils : AreaSettings := {}
  discreteInputs : AreaSettings := {}
  holdingRegisters : AreaSettings := {}
  inputRegisters : AreaSettings := {}
  sealing : Option SealingSettings := none
  deriving DecidableEq, Repr

namespace MemorySettings

def area (settings : MemorySettings) : Area → AreaSettings
  | .coils => settings.coils
  | .discreteInputs => settings.discreteInputs
  | .holdingRegisters => settings.holdingRegisters
  | .inputRegisters => settings.inputRegisters

/-- The gate, if sealing is enabled. -/
def gate? (settings : MemorySettings) : Option GateSettings :=
  (settings.sealing.filter (·.enabled)).map (·.gate)

end MemorySettings

/-- The memories by their keys. -/
abbrev Memories : Type := Table String MemorySettings

/-- The key of the first default memory. -/
def Memories.defaultKey? (memories : Memories) : Option String :=
  (memories.entries.find? (fun entry => entry.2.isDefault)).map Prod.fst

/-- Which peers may connect, as it was written. -/
structure FilterSettings where
  allow : List String := []
  deny : List String := []
  deriving DecidableEq, Repr

/-- Whether nothing is said about peers. -/
def FilterSettings.isEmpty (settings : FilterSettings) : Bool :=
  settings.allow.isEmpty && settings.deny.isEmpty

/-- The settings of one listening port. -/
structure PortSettings where
  policy : PortPolicy
  maxConnections : Nat := 32
  ipFilter : FilterSettings := {}
  deriving DecidableEq

/-- The settings of the HTTP interface. -/
structure RestSettings where
  enabled : Bool := false
  address : String := "127.0.0.1:8080"
  authEnabled : Bool := true
  tokens : List String := []
  enableIngest : Bool := true
  enableRead : Bool := true
  enableDiagnostics : Bool := true
  deriving DecidableEq, Repr

/-- The settings of the broker subscription. -/
structure MqttSettings where
  enabled : Bool := false
  broker : String := "tcp://127.0.0.1:1883"
  clientId : String := ""
  topic : String := "mma/ingest"
  username : Option String := none
  password : Option String := none
  deriving DecidableEq, Repr

/-- The settings of the ingest listener. -/
structure RawIngestSettings where
  enabled : Bool := false
  listen : String := "0.0.0.0:5021"
  maxPacketBytes : Nat := 4096
  readTimeoutMs : Nat := 5000
  deriving DecidableEq, Repr

end RegisterGateway.Config

namespace RegisterGateway

/-- A whole configuration. -/
structure Config where
  memories : Config.Memories := .empty
  routing : Table UInt8 String := .empty
  ports : Table UInt16 Config.PortSettings := .empty
  rest : Config.RestSettings := {}
  mqtt : Config.MqttSettings := {}
  rawIngest : Config.RawIngestSettings := {}
  deriving DecidableEq

/-- The port that is listened on when none is configured. -/
def Config.defaultModbusPort : UInt16 := 5020

end RegisterGateway
