import RegisterGateway.Access.Policy
import RegisterGateway.Config.Model
import RegisterGateway.Text.Blank
import RegisterGateway.Text.Numeral

/-!
# Validity of configurations

`Config.faults` lists everything that is wrong with a configuration, in the order in which
it is looked at; a configuration is valid if there is nothing, and otherwise its first fault
is reported.
-/

namespace RegisterGateway.Config

/-- Something that is wrong with a configuration. -/
inductive Fault where
  | noMemories
  | blankMemoryKey
  | areaTooLarge (key : String) (area : Area)
  | gateArea (key area : String)
  | gateOutside (key : String) (address size : Nat)
  | gateTooLarge (key : String) (address : Nat)
  | noDefault
  | severalDefaults
  | noRoutes
  | unknownRoute (unit : UInt8) (key : String)
  | portZero
  | noUnits (port : UInt16)
  | noPortMemories (port : UInt16)
  | unroutedUnit (port : UInt16) (unit : UInt8)
  | blankPortMemory (port : UInt16)
  | unknownPortMemory (port : UInt16) (key : String)
  | noConnections (port : UInt16)
  | noRawListen
  | rawPacketTooSmall
  | noRawTimeout
  | noRestAddress
  | noRestToken
  | noMqttBroker
  | noMqttTopic
  deriving DecidableEq, Repr

/-- The most cells of an area: as many as there are addresses. -/
def maxAreaSize : Nat := 65536

/-- The number of bytes that an ingest packet must exceed. -/
def minPacketBytes : Nat := 12

def Fault.message : Fault → String
  | .noMemories => "no memories defined"
  | .blankMemoryKey => "memory id cannot be empty"
  | .areaTooLarge key area =>
      let name := area.name
      s!"memory '{key}': {name}.size must be <= {maxAreaSize}"
  | .gateArea key area =>
      s!"memory '{key}': state_sealing gate area must be 'discrete_inputs', got '{area}'"
  | .gateOutside key address size =>
      s!"memory '{key}': state_sealing gate address {address} outside discrete_inputs (size {size})"
  | .gateTooLarge key address =>
      s!"memory '{key}': state_sealing gate address {address} exceeds 65535"
  | .noDefault => "no default memory defined"
  | .severalDefaults => "multiple default memories defined"
  | .noRoutes => "routing.unit_id_map must not be empty"
  | .unknownRoute unit key =>
      let number := unit.toNat
      s!"routing.unit_id_map[{number}] references unknown memory '{key}'"
  | .portZero => "invalid port 0"
  | .noUnits port =>
      let number := port.toNat
      s!"ports.{number}.unit_ids cannot be empty"
  | .noPortMemories port =>
      let number := port.toNat
      s!"ports.{number}.memories cannot be empty"
  | .unroutedUnit port unit =>
      let number := port.toNat
      let id := unit.toNat
      s!"ports.{number}: unit_id {id} not in routing.unit_id_map"
  | .blankPortMemory port =>
      let number := port.toNat
      s!"ports.{number}: memory name cannot be empty"
  | .unknownPortMemory port key =>
      let number := port.toNat
      s!"ports.{number}: unknown memory '{key}'"
  | .noConnections port =>
      let number := port.toNat
      s!"ports.{number}.max_connections must be > 0"
  | .noRawListen => "raw_ingest.listen is required"
  | .rawPacketTooSmall => s!"raw_ingest.max_packet_bytes must be > {minPacketBytes}"
  | .noRawTimeout => "raw_ingest.read_timeout_ms must be > 0"
  | .noRestAddress => "rest.address is required"
  | .noRestToken => "rest.auth_enabled requires at least one token"
  | .noMqttBroker => "mqtt.broker is required"
  | .noMqttTopic => "mqtt.topic is required"

/-- A fault that is there if something is the case. -/
def Fault.when (fault : Fault) (present : Bool) : List Fault :=
  if present then [fault] else []

def GateSettings.faults (gate : GateSettings) (key : String) (inputs : Nat) : List Fault :=
  (Fault.gateArea key gate.area).when (gate.area != Area.discreteInputs.name) ++
  (Fault.gateOutside key gate.address inputs).when (inputs ≤ gate.address)

def MemorySettings.faults (settings : MemorySettings) (key : String) : List Fault :=
  Fault.blankMemoryKey.when (Text.isAllBlank key) ++
  Area.all.flatMap (fun area =>
    (Fault.areaTooLarge key area).when (maxAreaSize < (settings.area area).size)) ++
  settings.gate?.toList.flatMap (fun gate => gate.faults key settings.discreteInputs.size)

def Memories.defaultCount (memories : Memories) : Nat :=
  memories.values.countP (·.isDefault)

def Memories.faults (memories : Memories) : List Fault :=
  Fault.noMemories.when memories.isEmpty ++
  memories.entries.flatMap (fun entry => entry.2.faults entry.1) ++
  Fault.noDefault.when (memories.defaultCount = 0) ++
  Fault.severalDefaults.when (1 < memories.defaultCount)

def routingFaults (memories : Memories) (routing : Table UInt8 String) : List Fault :=
  Fault.noRoutes.when routing.isEmpty ++
  routing.entries.flatMap (fun entry =>
    (Fault.unknownRoute entry.1 entry.2).when (!memories.contains entry.2))

def PortSettings.faults (settings : PortSettings) (port : UInt16) (memories : Memories)
    (routing : Table UInt8 String) : List Fault :=
  Fault.portZero.when (port = 0) ++
  (Fault.noUnits port).when settings.policy.unitIds.isEmptyList ++
  (Fault.noPortMemories port).when settings.policy.memories.isEmptyList ++
  settings.policy.unitIds.listedKeys.flatMap (fun unit =>
    (Fault.unroutedUnit port unit).when (!routing.contains unit)) ++
  settings.policy.memories.listedKeys.flatMap (fun key =>
    (Fault.blankPortMemory port).when (Text.isAllBlank key) ++
    (Fault.unknownPortMemory port key).when (!memories.contains key)) ++
  (Fault.noConnections port).when (settings.maxConnections = 0)

/-- The faults of the ingest listener, which count if it is enabled. -/
def RawIngestSettings.faults (settings : RawIngestSettings) : List Fault :=
  if settings.enabled then
    Fault.noRawListen.when (Text.isAllBlank settings.listen) ++
    Fault.rawPacketTooSmall.when (settings.maxPacketBytes ≤ minPacketBytes) ++
    Fault.noRawTimeout.when (settings.readTimeoutMs = 0)
  else []

/-- The faults of the HTTP interface, which count if it is enabled. -/
def RestSettings.faults (settings : RestSettings) : List Fault :=
  if settings.enabled then
    Fault.noRestAddress.when (Text.isAllBlank settings.address) ++
    Fault.noRestToken.when (settings.authEnabled && settings.tokens.all Text.isAllBlank)
  else []

/-- The faults of the broker subscription, which count if it is enabled. -/
def MqttSettings.faults (settings : MqttSettings) : List Fault :=
  if settings.enabled then
    Fault.noMqttBroker.when (Text.isAllBlank settings.broker) ++
    Fault.noMqttTopic.when (Text.isAllBlank settings.topic)
  else []

end RegisterGateway.Config

namespace RegisterGateway.Config

/-- Everything that is wrong with a configuration. -/
def faults (config : Config) : List Fault :=
  config.memories.faults ++
  routingFaults config.memories config.routing ++
  config.ports.entries.flatMap (fun entry =>
    entry.2.faults entry.1 config.memories config.routing) ++
  config.rawIngest.faults ++ config.rest.faults ++ config.mqtt.faults

/-- Accepts what has no fault, or else yields the first one. -/
def firstFault : List Fault → Except Fault Unit
  | [] => .ok ()
  | fault :: _ => .error fault

/-- Accepts a configuration without fault. -/
def validate (config : Config) : Except Fault Unit :=
  firstFault config.faults

end RegisterGateway.Config
