import RegisterGateway.Config.Decode
import RegisterGateway.Config.Factory
import RegisterGateway.Config.Files
import RegisterGateway.Config.Memories

/-!
# Loading a configuration

A configuration comes from a file, whose path the environment may name, and a few of its
settings may be overridden by the environment. It is validated when it has been read, and
again after the overrides. Where there is no file the factory configuration is written, for
the operator to look at.
-/

namespace RegisterGateway

/-- Why there is no configuration. -/
inductive ConfigError where
  | invalidValue (name value : String)
  | file (path : String) (error : Config.FileError)
  | undecodable (error : Document.DecodeError)
  | factoryWritten (path : String)
  | invalid (fault : Config.Fault)
  | registry (error : RegistryError)
  deriving DecidableEq, Repr

/-- The wording of a configuration error; what cannot be decoded has one in some cases only. -/
def ConfigError.message? : ConfigError → Option String
  | .invalidValue name value => some s!"invalid value for {name}: {value}"
  | .file path error =>
      let reason := error.message
      some s!"failed to read {path}: {reason}"
  | .undecodable error => error.message?
  | .factoryWritten path =>
      some s!"config file not found; default config written to {path}, please review and restart"
  | .invalid fault => some ("invalid config: " ++ fault.message)
  | .registry error => some ("failed to build memories: " ++ error.message)

namespace Config

def BuildError.toConfigError : BuildError → ConfigError
  | .invalid fault => .invalid fault
  | .registry error => .registry error

/-- Accepts a configuration without fault. -/
def validated (config : Config) : Except ConfigError Config :=
  match config.validate with
  | .ok _ => .ok config
  | .error fault => .error (.invalid fault)

/-- The valid configuration that a text spells. -/
def load (source : String) : Except ConfigError Config := do
  let config ← (Config.ofText source).mapError .undecodable
  config.validated

def loadFile (files : Files) (path : String) : Except ConfigError Config := do
  let source ← (files.read path).mapError (.file path)
  load source

/-- The valid configuration in a file; where there is no file the factory configuration is
written, and the load fails. -/
def loadOrCreate (files : Files) (path : String) : Except ConfigError Config × Files :=
  if files.isPresent path then (loadFile files path, files)
  else match files.write path factoryText with
    | .ok written => (.error (.factoryWritten path), written)
    | .error error => (.error (.file path error), files)

/-- The variables of an environment with their values. -/
structure Environment where
  bindings : List (String × String) := []
  deriving DecidableEq, Repr

namespace Environment

/-- The value of a variable; an empty one counts as missing. -/
def value? (environment : Environment) (name : String) : Option String :=
  (environment.bindings.lookup name).filter (fun value => !value.isEmpty)

/-- The truth value of a word, whatever its case. -/
def switch? (word : String) : Option Bool :=
  let lower := String.ofList (word.toList.map Char.toLower)
  if ["1", "true", "on"].contains lower then some true
  else if ["0", "false", "off"].contains lower then some false
  else none

/-- The truth value of a variable, if it is there; it must be one of the known words. -/
def switch (environment : Environment) (name : String) : Except ConfigError (Option Bool) :=
  match environment.value? name with
  | none => .ok none
  | some value =>
    match switch? value with
    | some isOn => .ok (some isOn)
    | none => .error (.invalidValue name value)

/-- The tokens of a list between commas, without surrounding blanks and without empty ones. -/
def tokens (value : String) : List String :=
  ((value.splitOn ",").map Text.trim).filter (fun token => !token.isEmpty)

def configPath (environment : Environment) : String :=
  (environment.value? "MMA_CONFIG_PATH").getD "config.yaml"

end Environment

def overridden (config : Config) (environment : Environment) : Except ConfigError Config := do
  let restEnabled ← environment.switch "MMA_REST_ENABLED"
  let mqttEnabled ← environment.switch "MMA_MQTT_ENABLED"
  let rawIngestEnabled ← environment.switch "MMA_RAW_INGEST_ENABLED"
  let tokens := (environment.value? "MMA_REST_TOKENS").map Environment.tokens
  pure { config with
    rest := { config.rest with
      address := (environment.value? "MMA_REST_ADDR").getD config.rest.address
      tokens := tokens.getD config.rest.tokens
      enabled := restEnabled.getD config.rest.enabled }
    mqtt := { config.mqtt with enabled := mqttEnabled.getD config.mqtt.enabled }
    rawIngest := { config.rawIngest with
      enabled := rawIngestEnabled.getD config.rawIngest.enabled
      listen := (environment.value? "MMA_RAW_INGEST_LISTEN").getD config.rawIngest.listen } }

/-- The configuration that the environment asks for: loaded and valid, then overridden, and
valid again. -/
def fromEnvironment (environment : Environment) (files : Files) :
    Except ConfigError Config × Files :=
  let (loaded, files) := loadOrCreate files environment.configPath
  let final := do
    let config ← loaded
    let config ← config.overridden environment
    config.validated
  (final, files)

end Config

end RegisterGateway
