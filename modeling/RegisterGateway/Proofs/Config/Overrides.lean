import Mathlib
import RegisterGateway.Config.Loading
import RegisterGateway.Proofs.Config.Validity
import RegisterGateway.Proofs.Results
import RegisterGateway.Proofs.Text.Splitting

/-!
# What the environment decides

The environment overrides settings of the entrances besides the Modbus listeners. A file is
validated before this happens and once more afterwards. So the environment can spoil a file but
not mend one: what the overrides make of a file is decisive if it is invalid, or the file was
valid on its own.
-/

namespace RegisterGateway.Config

/-! ## Overriding -/

/-- The variables that switch an entrance on or off. -/
def Environment.switches : List String :=
  ["MMA_REST_ENABLED", "MMA_MQTT_ENABLED", "MMA_RAW_INGEST_ENABLED"]

/-- Every switch that is there has a known word for its value. -/
def Environment.IsRecognised (environment : Environment) : Prop :=
  ∀ name ∈ switches, ∀ word ∈ environment.value? name, (switch? word).isSome = true

instance (environment : Environment) : Decidable environment.IsRecognised :=
  inferInstanceAs (Decidable (∀ name ∈ Environment.switches,
    ∀ word ∈ environment.value? name, (Environment.switch? word).isSome = true))

variable {environment : Environment} {files : Files} {path source : String}
  {config overridden : Config}

/-- What the environment makes of a configuration: what it says counts, and everything else stays
as it is. -/
structure Environment.Overrides (environment : Environment) (config overridden : Config) :
    Prop where
  restAddress : overridden.rest.address =
    (environment.value? "MMA_REST_ADDR").getD config.rest.address
  restTokens : overridden.rest.tokens =
    ((environment.value? "MMA_REST_TOKENS").map tokens).getD config.rest.tokens
  restEnabled : overridden.rest.enabled =
    ((environment.value? "MMA_REST_ENABLED").bind switch?).getD config.rest.enabled
  mqttEnabled : overridden.mqtt.enabled =
    ((environment.value? "MMA_MQTT_ENABLED").bind switch?).getD config.mqtt.enabled
  rawIngestEnabled : overridden.rawIngest.enabled =
    ((environment.value? "MMA_RAW_INGEST_ENABLED").bind switch?).getD config.rawIngest.enabled
  rawIngestListen : overridden.rawIngest.listen =
    (environment.value? "MMA_RAW_INGEST_LISTEN").getD config.rawIngest.listen
  others : overridden = { config with
    rest := { config.rest with
      address := overridden.rest.address
      tokens := overridden.rest.tokens
      enabled := overridden.rest.enabled }
    mqtt := { config.mqtt with enabled := overridden.mqtt.enabled }
    rawIngest := { config.rawIngest with
      enabled := overridden.rawIngest.enabled
      listen := overridden.rawIngest.listen } }

theorem Environment.IsRecognised.switch_eq (recognised : environment.IsRecognised)
    {name : String} (isSwitch : name ∈ switches) :
    environment.switch name = .ok ((environment.value? name).bind switch?) := by
  unfold switch
  cases there : environment.value? name with
  | none => rfl
  | some word =>
      obtain ⟨isOn, known⟩ := Option.isSome_iff_exists.1 (recognised name isSwitch word there)
      simp only [Option.bind_some, known]

/-- Where the switches have known words, nothing stands in the way of the environment. -/
theorem Environment.IsRecognised.exists_overridden (recognised : environment.IsRecognised)
    (config : Config) :
    ∃ overridden, config.overridden environment = .ok overridden ∧
      environment.Overrides config overridden := by
  rw [Config.overridden, recognised.switch_eq (by decide : "MMA_REST_ENABLED" ∈ switches),
    recognised.switch_eq (by decide : "MMA_MQTT_ENABLED" ∈ switches),
    recognised.switch_eq (by decide : "MMA_RAW_INGEST_ENABLED" ∈ switches)]
  exact ⟨_, rfl, by constructor <;> rfl⟩

/-! ## Faults that can be overridden -/

/-- What is wrong with the entrances that the environment can override settings of. -/
def entranceFaults (config : Config) : List Fault :=
  config.rawIngest.faults ++ config.rest.faults ++ config.mqtt.faults

/-- Where overriding leads to a valid configuration, nothing else has been wrong before. -/
theorem Environment.Overrides.faults_eq (overrides : environment.Overrides config overridden)
    (valid : overridden.validate = .ok ()) : config.faults = config.entranceFaults := by
  have faultless := validate_eq_ok_iff.1 valid
  have memories : overridden.memories = config.memories := by rw [overrides.others]
  have routing : overridden.routing = config.routing := by rw [overrides.others]
  have ports : overridden.ports = config.ports := by rw [overrides.others]
  simp only [faults, memories, routing, ports, List.append_eq_nil_iff] at faultless
  obtain ⟨⟨⟨⟨⟨ofMemories, ofRouting⟩, ofPorts⟩, -⟩, -⟩, -⟩ := faultless
  rw [faults, ofMemories, ofRouting, ofPorts]
  rfl

theorem mem_faults_of_validate {fault : Fault} (invalid : config.validate = .error fault) :
    fault ∈ config.faults :=
  List.mem_of_mem_head? (validate_eq_error_iff.1 invalid)

/-! ## Loading -/

theorem validated_of_validate (valid : config.validate = .ok ()) :
    config.validated = .ok config := by
  simp only [validated, valid]

theorem validated_of_fault {fault : Fault} (invalid : config.validate = .error fault) :
    config.validated = .error (.invalid fault) := by
  simp only [validated, invalid]

theorem validated_eq_ok_iff {accepted : Config} :
    config.validated = .ok accepted ↔ config.validate = .ok () ∧ accepted = config := by
  cases valid : config.validate with
  | ok => simp [validated_of_validate valid, eq_comm]
  | error fault => simp [validated_of_fault valid]

theorem isPresent_of_read (read : files.read path = .ok source) : files.isPresent path = true := by
  obtain ⟨entry, found, -⟩ := bind_eq_ok_iff.1 read
  simp only [Files.isPresent, found, Except.isOk, Except.toBool]

theorem load_of_ofText (parsed : Config.ofText source = .ok config) :
    load source = config.validated := by
  rw [load, parsed]
  rfl

/-- A file that spells a configuration is overridden if that is valid on its own. -/
theorem fromEnvironment_of_read (present : files.read environment.configPath = .ok source)
    (parsed : Config.ofText source = .ok config)
    (applied : config.overridden environment = .ok overridden) :
    fromEnvironment environment files =
      (config.validated.bind fun _ => overridden.validated, files) := by
  have loaded : loadFile files environment.configPath = config.validated := by
    rw [loadFile, present]
    exact load_of_ofText parsed
  rw [fromEnvironment, loadOrCreate, isPresent_of_read present, if_pos rfl, loaded]
  cases valid : config.validate with
  | ok =>
      rw [validated_of_validate valid]
      change (config.overridden environment >>= validated, files) = (overridden.validated, files)
      rw [applied]
      rfl
  | error fault =>
      rw [validated_of_fault valid]
      rfl

/-- What the environment makes of a file is decisive exactly if overriding makes no valid
configuration of an invalid one. Where it would make one, the file is refused for something that
is wrong with one of the entrances. -/
theorem overrides_decide_iff (present : files.read environment.configPath = .ok source)
    (parsed : Config.ofText source = .ok config) (recognised : environment.IsRecognised) :
    ∃ overridden, environment.Overrides config overridden ∧
      ((∀ loaded, (fromEnvironment environment files).1 = .ok loaded ↔
          overridden.validate = .ok () ∧ loaded = overridden) ↔
        (overridden.validate = .ok () → config.validate = .ok ())) ∧
      (overridden.validate = .ok () → config.validate ≠ .ok () →
        ∃ fault ∈ config.entranceFaults,
          (fromEnvironment environment files).1 = .error (.invalid fault)) := by
  obtain ⟨overridden, applied, overrides⟩ := recognised.exists_overridden config
  rw [fromEnvironment_of_read present parsed applied]
  refine ⟨overridden, overrides, ?_, fun mended invalid => ?_⟩
  · cases valid : config.validate with
    | ok => simp [validated_of_validate valid, Except.bind, validated_eq_ok_iff]
    | error fault => simp [validated_of_fault valid, Except.bind]
  · cases reported : config.validate with
    | ok => exact absurd reported invalid
    | error fault =>
        have member := mem_faults_of_validate reported
        rw [overrides.faults_eq mended] at member
        exact ⟨fault, member, by rw [validated_of_fault reported]; rfl⟩

/-! ## Files with one memory -/

/-- The lines of a file with one memory and some settings of the HTTP interface. -/
def oneMemoryText (rest : List String) : String :=
  "\n".intercalate (["memory:", " memories:", "  m:", "   default: true", "   coils: &area",
    "    size: 8", "   discrete_inputs: *area", "   holding_registers: *area",
    "   input_registers: *area", "routing:", " unit_id_map:", "  1: m", "rest:"] ++ rest)

/-- The configuration that such a file spells. -/
def oneMemory (rest : RestSettings) : Config where
  memories := .ofList [("m",
    { isDefault := true, coils.size := 8, discreteInputs.size := 8, holdingRegisters.size := 8,
      inputRegisters.size := 8 })]
  routing := .ofList [(1, "m")]
  rest := rest

/-- The file alone, where it is looked for if the environment says nothing. -/
def onlyFile (text : String) : Files where
  entries := .ofList [("config.yaml", .content text.toUTF8.data.toList)]

theorem read_onlyFile (text : String) : (onlyFile text).read "config.yaml" = .ok text := by
  have names : "config.yaml".splitOn "/" = ["config.yaml"] :=
    (Text.splitOn_singleton "config.yaml" '/').trans (by decide +kernel)
  have start : Place.start "config.yaml" = [] := by decide +kernel
  have found : (onlyFile text).find "config.yaml" = .ok (.content text.toUTF8.data.toList) := by
    simp only [Files.find, Files.follow, names, start]
    rfl
  have decoded : String.fromUTF8? text.toUTF8 = some text := by
    rw [String.fromUTF8?, String.toUTF8_eq_toByteArray, dif_pos text.isValidUTF8]
    rfl
  have recovered : (⟨text.toUTF8.data.toList.toArray⟩ : ByteArray) = text.toUTF8 := rfl
  simp only [Files.read, found, bind, Except.bind, recovered, decoded]

/-- What stands between the commas are the tokens, once the blanks are gone. -/
theorem Environment.tokens_eq (value : String) :
    tokens value = (((value.toList.splitOnP (· == ',')).map String.ofList).map Text.trim).filter
      (fun token => !token.isEmpty) := by
  rw [tokens, ← Text.splitOn_singleton value ',']
  rfl

/-- An environment that switches the HTTP interface on, and gives it tokens. -/
def switchingOn : Environment where
  bindings := [("MMA_REST_ENABLED", "On"), ("MMA_REST_TOKENS", " a,, b")]

/-- An environment that gives the HTTP interface a token, and says nothing else. -/
def givingToken : Environment where
  bindings := [("MMA_REST_TOKENS", "secret")]

/-- The HTTP interface is switched on for a file that has switched it off, with the tokens that
are given for it. -/
theorem interface_switched_on :
    (fromEnvironment switchingOn (onlyFile (oneMemoryText [" enabled: false"]))).1 =
      .ok (oneMemory { enabled := true, tokens := ["a", "b"] }) := by
  have path : switchingOn.configPath = "config.yaml" := by decide +kernel
  have present := read_onlyFile (oneMemoryText [" enabled: false"])
  rw [← path] at present
  have parsed : Config.ofText (oneMemoryText [" enabled: false"]) = .ok (oneMemory {}) := by
    decide +kernel
  have tokens : Environment.tokens " a,, b" = ["a", "b"] :=
    (Environment.tokens_eq " a,, b").trans (by decide +kernel)
  obtain ⟨overridden, overrides, decides, -⟩ :=
    overrides_decide_iff present parsed (by decide +kernel : switchingOn.IsRecognised)
  have same : overridden = oneMemory { enabled := true, tokens := ["a", "b"] } := by
    rw [overrides.others, overrides.restAddress, overrides.restTokens, overrides.restEnabled,
      overrides.mqttEnabled, overrides.rawIngestEnabled, overrides.rawIngestListen, ← tokens]
    rfl
  subst same
  exact (decides.2 (fun _ => by decide +kernel) _).2 ⟨by decide +kernel, rfl⟩

/-- A file that switches the HTTP interface on, and leaves its tokens to the environment, is
refused for want of tokens, though nothing is wrong with what the overrides make of it. -/
theorem tokens_given_too_late :
    ∃ config overridden,
      (onlyFile (oneMemoryText [" enabled: true"])).read givingToken.configPath =
        .ok (oneMemoryText [" enabled: true"]) ∧
      Config.ofText (oneMemoryText [" enabled: true"]) = .ok config ∧
      givingToken.IsRecognised ∧
      config.overridden givingToken = .ok overridden ∧ overridden.validate = .ok () ∧
      (fromEnvironment givingToken (onlyFile (oneMemoryText [" enabled: true"]))).1 =
        .error (.invalid .noRestToken) := by
  have path : givingToken.configPath = "config.yaml" := by decide +kernel
  have present := read_onlyFile (oneMemoryText [" enabled: true"])
  rw [← path] at present
  have parsed : Config.ofText (oneMemoryText [" enabled: true"]) =
      .ok (oneMemory { enabled := true }) := by
    decide +kernel
  have tokens : Environment.tokens "secret" = ["secret"] :=
    (Environment.tokens_eq "secret").trans (by decide +kernel)
  have overrides : (oneMemory { enabled := true }).overridden givingToken =
      .ok (oneMemory { enabled := true, tokens := ["secret"] }) := by
    rw [← tokens]
    rfl
  have invalid : (oneMemory { enabled := true }).validate = .error .noRestToken := by
    decide +kernel
  refine ⟨_, _, present, parsed, by decide +kernel, overrides, by decide +kernel, ?_⟩
  rw [fromEnvironment_of_read present parsed overrides, validated_of_fault invalid]
  rfl

end RegisterGateway.Config
