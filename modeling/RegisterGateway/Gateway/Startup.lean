import RegisterGateway.Config.Model
import RegisterGateway.Modbus.Listener
import RegisterGateway.Mqtt.Session
import RegisterGateway.RawIngest.Listener
import RegisterGateway.Rest.Interface

/-!
# From a configuration to its entrances

Each entrance is made from its own part of a configuration. What has nothing to do with the
network is decided here: which filters, settings and broker addresses are refused, and which
addresses cannot be listened on because they are not written as addresses.
-/

namespace RegisterGateway

/-- Why nothing can listen on an address. -/
inductive AddressError where
  | noPort
  | badPort
  deriving DecidableEq, Repr

def AddressError.message : AddressError → String
  | .noPort => "invalid socket address"
  | .badPort => "invalid port value"

/-- Why a gateway does not start. -/
inductive StartError where
  | filter (invalid : Access.InvalidEntry)
  | rawIngest (error : RawIngest.SettingsError)
  | address (text : String) (error : AddressError)
  | restAddress (text : String) (error : AddressError)
  | broker (invalid : Mqtt.InvalidBroker)
  /-- The program ends at once, because a listener cannot count down from its limit. -/
  | uncountable (limit : Nat)
  deriving DecidableEq, Repr

/-- The wording of a start error; a program that ends at once says nothing of its own. -/
def StartError.message? : StartError → Option String
  | .filter invalid => some invalid.message
  | .rawIngest error => some error.message
  | .address text error =>
      let reason := error.message
      some s!"failed to bind {text}: {reason}"
  | .restAddress text error =>
      let reason := error.message
      some s!"failed to bind rest listener {text}: {reason}"
  | .broker invalid => some invalid.message
  | .uncountable _ => none

/-- Accepts a text that is written as an address: a host, a colon and a port number. -/
def checkAddress (text : String) : Except AddressError Unit :=
  match Text.splitAtLast? ':' text.toList with
  | none => .error .noPort
  | some (_, number) =>
    match Text.word? 65536 number with
    | none => .error .badPort
    | some _ => .ok ()

namespace Config

def rules (config : Config) : AccessRules :=
  ⟨config.routing, config.ports.map (fun _ settings => settings.policy)⟩

def PortSettings.listener (settings : PortSettings) (port : UInt16) (rules : AccessRules) :
    Except StartError Modbus.Listener := do
  let filter ← (Access.IpFilter.compile settings.ipFilter.allow settings.ipFilter.deny).mapError
    StartError.filter
  match Modbus.Listener.make? (.governed port rules) filter settings.maxConnections with
  | some listener => .ok listener
  | none => .error (.uncountable settings.maxConnections)

/-- The listeners by their ports. Where no port is configured, the default port serves the
default memory without access rules. -/
def listeners (config : Config) : Except StartError (Table UInt16 Modbus.Listener) :=
  if config.ports.isEmpty then
    .ok (Table.ofList [(defaultModbusPort, { resolver := .defaultMemory })])
  else config.ports.mapM (fun port settings => settings.listener port config.rules)

/-- The ingest listener, if it is enabled. -/
def RawIngestSettings.listener (settings : RawIngestSettings) :
    Except StartError (Option RawIngest.Listener) :=
  if settings.enabled then
    let given : RawIngest.ListenerSettings :=
      ⟨settings.listen, settings.maxPacketBytes, settings.readTimeoutMs⟩
    match given.check with
    | .ok _ => .ok (some { settings := given })
    | .error error => .error (.rawIngest error)
  else .ok none

/-- The ingest listener on an address that can be listened on, if it is enabled. -/
def RawIngestSettings.bound (settings : RawIngestSettings) :
    Except StartError (Option RawIngest.Listener) := do
  match ← settings.listener with
  | none => pure none
  | some listener =>
      (checkAddress settings.listen).mapError (.address settings.listen)
      pure (some listener)

/-- The settings of the broker session, if it is enabled. -/
def MqttSettings.subscription (settings : MqttSettings) :
    Except StartError (Option Mqtt.Settings) :=
  if settings.enabled then
    match Mqtt.Settings.make settings.broker settings.clientId settings.topic with
    | .ok made =>
        .ok (some { made with username := settings.username, password := settings.password })
    | .error invalid => .error (.broker invalid)
  else .ok none

/-- The HTTP interface on an address that can be listened on, whether it is enabled or not. -/
def RestSettings.bound (settings : RestSettings) (memories : Memories) :
    Except StartError Rest.Interface := do
  (checkAddress settings.address).mapError (.restAddress settings.address)
  pure (.ofSettings settings memories)

end Config

end RegisterGateway
