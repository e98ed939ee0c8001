import RegisterGateway.Config.Loading
import RegisterGateway.Gateway.Running

/-!
# The command

Without an argument the command starts the gateway that the environment describes and lists
its entrances. With one, it serves a single connection between standard input and standard
output: `modbus PORT` as the listener of that port does, `raw-ingest` as the ingest listener
does. A program that accepts connections can so be put in front of it.
-/

namespace RegisterGateway.Command

/-- The variables that may override a configuration or name its file. -/
def variableNames : List String :=
  ["MMA_CONFIG_PATH", "MMA_REST_ADDR", "MMA_REST_TOKENS", "MMA_REST_ENABLED",
    "MMA_MQTT_ENABLED", "MMA_RAW_INGEST_ENABLED", "MMA_RAW_INGEST_LISTEN"]

def readEnvironment : IO Config.Environment := do
  let bindings ← variableNames.filterMapM fun name => do
    pure ((← IO.getEnv name).map fun value => (name, value))
  pure ⟨bindings⟩

def readEntry (path : String) : IO (Option Config.FileEntry) := do
  match ← (IO.FS.readBinFile path).toBaseIO with
  | .ok bytes => pure (some (.content bytes.toList))
  | .error (.inappropriateType ..) => pure (some .directory)
  | .error (.noFileOrDirectory ..) => pure none
  | .error error => throw error

/-- What there is at the end of a path and on the way to it. -/
def readFiles (path : String) : IO Config.Files := do
  let places := (Config.Place.along path).filter (fun place => !place.isAncestor)
  let entries ← places.filterMapM fun place => do
    pure ((← readEntry place.path).map fun entry => (place.path, entry))
  pure (.ofList entries)

def describeConfigError (error : ConfigError) : String :=
  error.message?.getD "the configuration file cannot be decoded"

def describeStartError (error : StartError) : String :=
  error.message?.getD "a listener cannot count so many connections"

def build (config : Config) : Except String Gateway := do
  let registry ← config.memories.build.mapError fun error =>
    describeConfigError error.toConfigError
  (Gateway.start config registry).mapError describeStartError

/-- What listens, line by line. -/
def report (config : Config) (gateway : Gateway) : List String :=
  let memories := String.intercalate ", " gateway.plant.registry.memories.keys
  let ports := gateway.listeners.keys.map fun port =>
    let number := port.toNat
    s!"modbus: port {number}"
  let ingest := gateway.rawIngest.toList.map fun listener =>
    "raw ingest: " ++ listener.settings.listen
  let broker := gateway.status.toList.map fun status =>
    "mqtt: " ++ status.broker ++ " " ++ status.topic
  let rest := gateway.interface.toList.map fun _ => "rest: " ++ config.rest.address
  ["memories: " ++ memories] ++ ports ++ ingest ++ broker ++ rest

/-- The events of one connection: its arrival, its bytes and its end. -/
structure Line where
  arrival : GatewayEvent
  received : List UInt8 → GatewayEvent
  closed : GatewayEvent

/-- A connection to the listener of a port, from the own machine. -/
def modbusLine (port : UInt16) : Line where
  arrival := .modbus port (.arrival (.v4 0x7F000001#32))
  received bytes := .modbus port (.received 0 bytes)
  closed := .modbus port (.closed 0)

/-- A connection to the ingest listener. -/
def rawIngestLine : Line where
  arrival := .rawIngest .arrival
  received bytes := .rawIngest (.received 0 bytes)
  closed := .rawIngest (.closed 0)

/-- Sends the replies of an outcome, and tells whether the connection goes on. -/
def deliver (outcome : GatewayOutcome) : IO Bool := do
  match outcome with
  | .network (.served replies goesOn) =>
      let output ← IO.getStdout
      output.write ⟨replies.toArray⟩
      output.flush
      pure goesOn
  | .network (.admitted _) => pure true
  | _ => pure false

/-- Serves a connection between standard input and standard output until either side ends. -/
def serve (line : Line) (start : Gateway) : IO Unit := do
  let input ← IO.getStdin
  let (outcome, admitted) := start.step line.arrival
  let mut gateway := admitted
  let mut goesOn ← deliver outcome
  while goesOn do
    let bytes ← input.read 4096
    let event := if bytes.isEmpty then line.closed else line.received bytes.toList
    let (outcome, after) := gateway.step event
    gateway := after
    goesOn ← deliver outcome

def carryOut (arguments : List String) (config : Config) (gateway : Gateway) : IO UInt32 := do
  match arguments with
  | [] =>
      for line in report config gateway do
        IO.println line
      pure 0
  | ["raw-ingest"] =>
      serve rawIngestLine gateway
      pure 0
  | ["modbus", number] =>
    match Text.word? 65536 number.toList with
    | some port =>
        serve (modbusLine (UInt16.ofNat port)) gateway
        pure 0
    | none =>
        IO.eprintln "the port must be a number below 65536"
        pure 2
  | _ =>
      IO.eprintln "usage: register-gateway [modbus PORT | raw-ingest]"
      pure 2

/-- Loads, builds and carries out. A factory configuration that has been made up is written to
its file. -/
def run (arguments : List String) : IO UInt32 := do
  let environment ← readEnvironment
  let files ← readFiles environment.configPath
  let (loaded, _) := Config.fromEnvironment environment files
  match loaded with
  | .error error =>
    if let .factoryWritten path := error then
      IO.FS.writeFile path Config.factoryText
    IO.eprintln (describeConfigError error)
    pure 1
  | .ok config =>
    match build config with
    | .error message =>
        IO.eprintln message
        pure 1
    | .ok gateway => carryOut arguments config gateway

end RegisterGateway.Command

/-- The command. -/
def main (arguments : List String) : IO UInt32 :=
  RegisterGateway.Command.run arguments
