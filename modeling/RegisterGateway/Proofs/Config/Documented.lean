import RegisterGateway.Proofs.Config.Starting

/-!
# The documented configurations

The rules for configurations are said here section by section, without a word on how they are
looked at. What is valid is exactly what follows all of them, and a fault is reported for the first
section whose rules are broken.
-/

namespace RegisterGateway

theorem Table.isEmpty_eq_false_iff {κ α : Type} [LT κ] [DecidableEq κ] [LE κ]
    [Std.LawfulOrderLT κ] {table : Table κ α} :
    table.isEmpty = false ↔ ∃ key value, table.find? key = some value := by
  constructor
  · intro filled
    cases entries : table.entries with
    | nil => simp [isEmpty, entries] at filled
    | cons entry rest =>
        exact ⟨entry.1, entry.2, mem_entries_iff.1 (entries ▸ List.mem_cons_self)⟩
  · rintro ⟨key, value, present⟩
    exact isEmpty_of_contains (Option.isSome_iff_exists.2 ⟨value, present⟩)

namespace Selector

variable {κ : Type} [LT κ]

theorem isEmptyList_eq_false_iff {selector : Selector κ} :
    selector.isEmptyList = false ↔ selector ≠ .listed .empty := by
  cases selector with
  | all => simp [isEmptyList]
  | listed keys =>
      obtain ⟨elements, increasing⟩ := keys
      simp [isEmptyList, KeySet.isEmpty, KeySet.empty]

theorem mem_listedKeys_iff {selector : Selector κ} {key : κ} :
    key ∈ selector.listedKeys ↔ ∃ keys, selector = .listed keys ∧ key ∈ keys.elements := by
  cases selector <;> simp [listedKeys]

end Selector

namespace Config

/-! ## The rules -/

/-- The rules for the memories. -/
structure Memories.FollowRules (memories : Memories) : Prop where
  filled : ∃ key settings, memories.find? key = some settings
  named : ∀ key settings, memories.find? key = some settings → Text.isAllBlank key = false
  oneDefault : ∃! key, ∃ settings, memories.find? key = some settings ∧ settings.isDefault = true
  sizes : ∀ key settings, memories.find? key = some settings →
    settings.coils.size ≤ 65536 ∧ settings.discreteInputs.size ≤ 65536 ∧
      settings.holdingRegisters.size ≤ 65536 ∧ settings.inputRegisters.size ≤ 65536
  gates : ∀ key settings sealing, memories.find? key = some settings →
    settings.sealing = some sealing → sealing.enabled = true →
      sealing.gate.area = "discrete_inputs" ∧ sealing.gate.address < settings.discreteInputs.size

/-- The rules for the routing to some memories. -/
structure RoutingFollowsRules (memories : Memories) (routing : Table UInt8 String) : Prop where
  filled : ∃ unit key, routing.find? unit = some key
  targets : ∀ unit key, routing.find? unit = some key →
    ∃ settings, memories.find? key = some settings

/-- The rules for a port, given the memories and the routing. -/
structure PortSettings.FollowRules (settings : PortSettings) (port : UInt16) (memories : Memories)
    (routing : Table UInt8 String) : Prop where
  number : port ≠ 0
  someUnits : settings.policy.unitIds ≠ .listed .empty
  someMemories : settings.policy.memories ≠ .listed .empty
  routed : ∀ units unit, settings.policy.unitIds = .listed units → unit ∈ units.elements →
    ∃ key, routing.find? unit = some key
  known : ∀ keys key, settings.policy.memories = .listed keys → key ∈ keys.elements →
    Text.isAllBlank key = false ∧ ∃ settings, memories.find? key = some settings
  connections : 0 < settings.maxConnections

/-- The rules for the ingest listener, if it is enabled. -/
structure RawIngestSettings.FollowRules (settings : RawIngestSettings) : Prop where
  listen : Text.isAllBlank settings.listen = false
  packets : 12 < settings.maxPacketBytes
  timeout : 0 < settings.readTimeoutMs

/-- The rules for the HTTP interface, if it is enabled. -/
structure RestSettings.FollowRules (settings : RestSettings) : Prop where
  address : Text.isAllBlank settings.address = false
  token : settings.authEnabled = true → ∃ token ∈ settings.tokens, Text.isAllBlank token = false

/-- The rules for the broker subscription, if it is enabled. -/
structure MqttSettings.FollowRules (settings : MqttSettings) : Prop where
  broker : Text.isAllBlank settings.broker = false
  topic : Text.isAllBlank settings.topic = false

/-- A section of a configuration. -/
inductive Section where
  | memory
  | routing
  | ports
  | transports
  deriving DecidableEq, Repr

namespace Section

def all : List Section := [.memory, .routing, .ports, .transports]

/-- The place of a section in their order. -/
def place : Section → Nat
  | .memory => 0
  | .routing => 1
  | .ports => 2
  | .transports => 3

end Section

/-- Whether a configuration follows the rules for a section. -/
def FollowsRules (config : Config) : Section → Prop
  | .memory => config.memories.FollowRules
  | .routing => RoutingFollowsRules config.memories config.routing
  | .ports => ∀ port settings, config.ports.find? port = some settings →
      settings.FollowRules port config.memories config.routing
  | .transports =>
      (config.rawIngest.enabled = true → config.rawIngest.FollowRules) ∧
        (config.rest.enabled = true → config.rest.FollowRules) ∧
        (config.mqtt.enabled = true → config.mqtt.FollowRules)

/-- The section that a fault is in. -/
def Fault.belongsTo : Fault → Section
  | .noMemories | .blankMemoryKey | .areaTooLarge .. | .gateArea .. | .gateOutside ..
  | .gateTooLarge .. | .noDefault | .severalDefaults => .memory
  | .noRoutes | .unknownRoute .. => .routing
  | .portZero | .noUnits _ | .noPortMemories _ | .unroutedUnit .. | .blankPortMemory _
  | .unknownPortMemory .. | .noConnections _ => .ports
  | .noRawListen | .rawPacketTooSmall | .noRawTimeout | .noRestAddress | .noRestToken
  | .noMqttBroker | .noMqttTopic => .transports

/-! ## Rules and faults -/

/-- One memory is the default if exactly one default is counted. -/
theorem Memories.defaultCount_eq_one_iff {memories : Memories} :
    memories.defaultCount = 1 ↔
      ∃! key, ∃ settings, memories.find? key = some settings ∧ settings.isDefault = true := by
  have marked (key : String) (settings : MemorySettings) :
      (key, settings) ∈ memories.entries.filter (fun entry => entry.2.isDefault) ↔
        memories.find? key = some settings ∧ settings.isDefault = true := by
    rw [List.mem_filter, Table.mem_entries_iff]
  have counted : memories.defaultCount =
      (memories.entries.filter fun entry => entry.2.isDefault).length := by
    rw [defaultCount, Table.values, List.countP_map, List.countP_eq_length_filter]
    rfl
  rw [counted]
  constructor
  · intro one
    obtain ⟨⟨key, chosen⟩, single⟩ := List.length_eq_one_iff.1 one
    rw [single] at marked
    refine ⟨key, ⟨chosen, (marked key chosen).1 (List.mem_singleton.2 rfl)⟩, ?_⟩
    rintro other ⟨settings, isMarked⟩
    exact congrArg Prod.fst (List.mem_singleton.1 ((marked other settings).2 isMarked))
  · rintro ⟨key, ⟨chosen, isMarked⟩, only⟩
    -- No entry is listed twice, so the marked ones are a list of one.
    have distinct : memories.entries.Nodup :=
      (List.pairwise_map.1 memories.increasing).imp fun below same =>
        absurd (same ▸ below) (lt_irrefl _)
    have single :
        (memories.entries.filter fun entry => entry.2.isDefault).Perm [(key, chosen)] := by
      refine (List.perm_ext_iff_of_nodup (distinct.filter _) (List.nodup_singleton _)).2 ?_
      rintro ⟨other, settings⟩
      rw [marked, List.mem_singleton]
      refine ⟨fun also => ?_, fun same => ?_⟩
      · obtain rfl := only other ⟨settings, also⟩
        rw [Option.some.inj (also.1.symm.trans isMarked.1)]
      · cases same
        exact isMarked
    exact single.length_eq

theorem MemorySettings.isSound_iff {settings : MemorySettings} {key : String} :
    settings.IsSound key ↔
      Text.isAllBlank key = false ∧
        (settings.coils.size ≤ 65536 ∧ settings.discreteInputs.size ≤ 65536 ∧
          settings.holdingRegisters.size ≤ 65536 ∧ settings.inputRegisters.size ≤ 65536) ∧
        ∀ sealing, settings.sealing = some sealing → sealing.enabled = true →
          sealing.gate.area = "discrete_inputs" ∧
            sealing.gate.address < settings.discreteInputs.size := by
  constructor
  · rintro ⟨named, sizes, gate⟩
    refine ⟨named, ⟨sizes .coils, sizes .discreteInputs, sizes .holdingRegisters,
      sizes .inputRegisters⟩, fun sealing present enabled => ?_⟩
    exact gate sealing.gate (gate?_eq_some_iff.2 ⟨sealing, present, enabled, rfl⟩)
  · rintro ⟨named, ⟨coils, discreteInputs, holdingRegisters, inputRegisters⟩, gates⟩
    refine ⟨named, fun area => by cases area <;> assumption, fun gate found => ?_⟩
    obtain ⟨sealing, present, enabled, rfl⟩ := gate?_eq_some_iff.1 found
    exact gates sealing present enabled

theorem Memories.faults_eq_nil_iff_followRules {memories : Memories} :
    memories.faults = [] ↔ memories.FollowRules := by
  rw [Memories.faults_eq_nil_iff]
  constructor
  · rintro ⟨each, oneDefault⟩
    have only := defaultCount_eq_one_iff.1 oneDefault
    obtain ⟨key, settings, present, -⟩ := only.exists
    exact {
      filled := ⟨key, settings, present⟩
      named := fun key settings present => (each key settings present).named
      oneDefault := only
      sizes := fun key settings present =>
        (MemorySettings.isSound_iff.1 (each key settings present)).2.1
      gates := fun key settings sealing present =>
        (MemorySettings.isSound_iff.1 (each key settings present)).2.2 sealing }
  · rintro ⟨-, named, only, sizes, gates⟩
    refine ⟨fun key settings present => ?_, defaultCount_eq_one_iff.2 only⟩
    exact MemorySettings.isSound_iff.2 ⟨named key settings present, sizes key settings present,
      fun sealing => gates key settings sealing present⟩

theorem routingFaults_eq_nil_iff_followsRules {memories : Memories}
    {routing : Table UInt8 String} :
    routingFaults memories routing = [] ↔ RoutingFollowsRules memories routing := by
  rw [routingFaults_eq_nil_iff, Table.isEmpty_eq_false_iff]
  simp only [Table.contains, Option.isSome_iff_exists]
  constructor
  · rintro ⟨filled, targets⟩
    exact ⟨filled, targets⟩
  · intro rules
    exact ⟨rules.filled, rules.targets⟩

theorem PortSettings.faults_eq_nil_iff {settings : PortSettings} {port : UInt16}
    {memories : Memories} {routing : Table UInt8 String} :
    settings.faults port memories routing = [] ↔
      settings.FollowRules port memories routing := by
  simp only [faults, List.append_eq_nil_iff, Fault.when_eq_nil_iff, List.flatMap_eq_nil_iff,
    Selector.isEmptyList_eq_false_iff, Selector.mem_listedKeys_iff, Table.contains,
    Bool.not_eq_false', Option.isSome_iff_exists, decide_eq_false_iff_not]
  constructor
  · rintro ⟨⟨⟨⟨⟨number, someUnits⟩, someMemories⟩, routed⟩, known⟩, connections⟩
    exact {
      number, someUnits, someMemories
      routed := fun units unit isList member => routed unit ⟨units, isList, member⟩
      known := fun keys key isList member => known key ⟨keys, isList, member⟩
      connections := Nat.pos_of_ne_zero connections }
  · rintro ⟨number, someUnits, someMemories, routed, known, connections⟩
    refine ⟨⟨⟨⟨⟨number, someUnits⟩, someMemories⟩, ?_⟩, ?_⟩, connections.ne'⟩
    · rintro unit ⟨units, isList, member⟩
      exact routed units unit isList member
    · rintro key ⟨keys, isList, member⟩
      exact known keys key isList member

theorem RawIngestSettings.faults_eq_nil_iff_followRules {settings : RawIngestSettings} :
    settings.faults = [] ↔ (settings.enabled = true → settings.FollowRules) := by
  rw [faults_eq_nil_iff]
  refine forall_congr' fun _ => ?_
  constructor
  · rintro ⟨listen, packets, timeout⟩
    exact ⟨listen, packets, Nat.pos_of_ne_zero timeout⟩
  · intro rules
    exact ⟨rules.listen, rules.packets, rules.timeout.ne'⟩

theorem RestSettings.faults_eq_nil_iff {settings : RestSettings} :
    settings.faults = [] ↔ (settings.enabled = true → settings.FollowRules) := by
  unfold faults
  split
  · rename_i enabled
    simp only [List.append_eq_nil_iff, Fault.when_eq_nil_iff, enabled, true_imp_iff,
      Bool.and_eq_false_iff, List.all_eq_false]
    constructor
    · rintro ⟨address, token⟩
      exact ⟨address, fun asks => by simpa [asks] using token⟩
    · intro rules
      refine ⟨rules.address, ?_⟩
      cases asks : settings.authEnabled with
      | false => exact .inl rfl
      | true => exact .inr (by simpa using rules.token asks)
  · exact iff_of_true rfl fun enabled => absurd enabled ‹_›

theorem MqttSettings.faults_eq_nil_iff {settings : MqttSettings} :
    settings.faults = [] ↔ (settings.enabled = true → settings.FollowRules) := by
  unfold faults
  split
  · rename_i enabled
    simp only [List.append_eq_nil_iff, Fault.when_eq_nil_iff, enabled, true_imp_iff]
    constructor
    · rintro ⟨broker, topic⟩
      exact ⟨broker, topic⟩
    · intro rules
      exact ⟨rules.broker, rules.topic⟩
  · exact iff_of_true rfl fun enabled => absurd enabled ‹_›

/-! ## Faults by section -/

/-- What is wrong with a section. -/
def faultsIn (config : Config) : Section → List Fault
  | .memory => config.memories.faults
  | .routing => routingFaults config.memories config.routing
  | .ports => config.ports.entries.flatMap fun entry =>
      entry.2.faults entry.1 config.memories config.routing
  | .transports => config.rawIngest.faults ++ config.rest.faults ++ config.mqtt.faults

theorem faults_eq_flatMap (config : Config) :
    config.faults = Section.all.flatMap config.faultsIn := by
  simp [faults, Section.all, faultsIn]

theorem mem_when_iff {fault other : Fault} {present : Bool} :
    fault ∈ other.when present ↔ fault = other ∧ present = true := by
  cases present <;> simp [Fault.when]

theorem belongsTo_of_mem {config : Config} {part : Section} {fault : Fault}
    (member : fault ∈ config.faultsIn part) : fault.belongsTo = part := by
  cases part with
  | memory =>
      simp only [faultsIn, Memories.faults, MemorySettings.faults, GateSettings.faults,
        List.mem_append, List.mem_flatMap, mem_when_iff] at member
      grind [Fault.belongsTo]
  | routing =>
      simp only [faultsIn, routingFaults, List.mem_append, List.mem_flatMap, mem_when_iff] at member
      grind [Fault.belongsTo]
  | ports =>
      simp only [faultsIn, PortSettings.faults, List.mem_append, List.mem_flatMap, mem_when_iff]
        at member
      grind [Fault.belongsTo]
  | transports =>
      simp only [faultsIn, RawIngestSettings.faults, RestSettings.faults, MqttSettings.faults,
        List.mem_append] at member
      grind [Fault.belongsTo, mem_when_iff]

/-- A section is without fault exactly if its rules are followed. -/
theorem faultsIn_eq_nil_iff {config : Config} {part : Section} :
    config.faultsIn part = [] ↔ config.FollowsRules part := by
  cases part with
  | memory => exact Memories.faults_eq_nil_iff_followRules
  | routing => exact routingFaults_eq_nil_iff_followsRules
  | ports =>
      simp only [faultsIn, FollowsRules, List.flatMap_eq_nil_iff, PortSettings.faults_eq_nil_iff]
      exact ⟨fun each port settings present =>
          each (port, settings) (Table.mem_entries_iff.2 present),
        fun each entry member => each _ _ (Table.mem_entries_iff.1 member)⟩
  | transports =>
      simp only [faultsIn, FollowsRules, List.append_eq_nil_iff,
        RawIngestSettings.faults_eq_nil_iff_followRules, RestSettings.faults_eq_nil_iff,
        MqttSettings.faults_eq_nil_iff, and_assoc]

/-! ## Validity -/

theorem validate_eq_ok_iff_followsRules {config : Config} :
    config.validate = .ok () ↔ ∀ part, config.FollowsRules part := by
  have everySection (part : Section) : part ∈ Section.all := by
    cases part <;> decide
  rw [validate_eq_ok_iff, faults_eq_flatMap, List.flatMap_eq_nil_iff]
  simp only [everySection, true_imp_iff, faultsIn_eq_nil_iff]

/-- A fault is reported for a section whose rules are broken, while those of every section before it
are followed. -/
theorem section_of_fault {config : Config} {fault : Fault}
    (invalid : config.validate = .error fault) :
    ¬ config.FollowsRules fault.belongsTo ∧
      ∀ part : Section, part.place < fault.belongsTo.place → config.FollowsRules part := by
  rw [validate_eq_error_iff, faults_eq_flatMap, List.head?_flatMap, List.findSome?_eq_some_iff]
    at invalid
  obtain ⟨earlier, broken, later, ordered, found, followed⟩ := invalid
  have member : fault ∈ config.faultsIn broken := List.mem_of_mem_head? found
  obtain rfl := belongsTo_of_mem member
  refine ⟨fun follows => ?_, fun part before => ?_⟩
  · rw [faultsIn_eq_nil_iff.2 follows] at member
    contradiction
  · have increasing : Section.all.Pairwise (fun one other => one.place < other.place) := by decide
    have occurs : part ∈ Section.all := by cases part <;> decide
    rw [ordered] at increasing occurs
    rcases List.mem_append.1 occurs with isEarlier | isLater
    · exact faultsIn_eq_nil_iff.1 (List.head?_eq_none_iff.1 (followed part isEarlier))
    · -- What is not earlier has no smaller place.
      have notBefore : fault.belongsTo.place ≤ part.place := by
        rcases List.mem_cons.1 isLater with rfl | isLater
        · exact Nat.le_refl _
        · exact (List.rel_of_pairwise_cons (List.pairwise_append.1 increasing).2.1 isLater).le
      exact absurd before notBefore.not_gt

/-- Two configurations are the same but for entrances that neither of them has enabled. -/
structure AgreesWhereEnabled (config other : Config) : Prop where
  memories : other.memories = config.memories
  routing : other.routing = config.routing
  ports : other.ports = config.ports
  rawIngest : other.rawIngest = config.rawIngest ∨
    config.rawIngest.enabled = false ∧ other.rawIngest.enabled = false
  rest : other.rest = config.rest ∨ config.rest.enabled = false ∧ other.rest.enabled = false
  mqtt : other.mqtt = config.mqtt ∨ config.mqtt.enabled = false ∧ other.mqtt.enabled = false

theorem validate_of_agreesWhereEnabled {config other : Config}
    (agrees : config.AgreesWhereEnabled other) : other.validate = config.validate := by
  obtain ⟨memories, routing, ports, rawIngest, rest, mqtt⟩ := agrees
  have sameRawIngest : other.rawIngest.faults = config.rawIngest.faults := by
    rcases rawIngest with same | ⟨off, otherOff⟩
    · rw [same]
    · simp [RawIngestSettings.faults, off, otherOff]
  have sameRest : other.rest.faults = config.rest.faults := by
    rcases rest with same | ⟨off, otherOff⟩
    · rw [same]
    · simp [RestSettings.faults, off, otherOff]
  have sameMqtt : other.mqtt.faults = config.mqtt.faults := by
    rcases mqtt with same | ⟨off, otherOff⟩
    · rw [same]
    · simp [MqttSettings.faults, off, otherOff]
  rw [validate, validate, faults, faults, memories, routing, ports, sameRawIngest, sameRest,
    sameMqtt]

/-- A configuration is valid exactly if it follows the rules for all its sections. Otherwise the
fault belongs to the first section whose rules are broken. What is said of an entrance that is not
enabled makes no difference. -/
theorem validate_decides_by_section (config : Config) :
    (config.validate = .ok () ↔ ∀ part, config.FollowsRules part) ∧
      (∀ fault, config.validate = .error fault →
        ¬ config.FollowsRules fault.belongsTo ∧
          ∀ part : Section, part.place < fault.belongsTo.place → config.FollowsRules part) ∧
      ∀ other, config.AgreesWhereEnabled other → other.validate = config.validate :=
  ⟨validate_eq_ok_iff_followsRules, fun _ => section_of_fault,
    fun _ => validate_of_agreesWhereEnabled⟩

/-- A configuration with one memory and one route, whose port is zero, whose HTTP interface is
enabled without an address, and whose ingest listener is not enabled and has no address either. -/
def brokenTwice : Config where
  memories := .ofList [("1", { isDefault := true, discreteInputs := { size := 8 } })]
  routing := .ofList [(1, "1")]
  ports := .ofList [(0, { policy := ⟨.all, .all, .readWrite, none⟩ })]
  rest := { enabled := true, address := " " }
  rawIngest := { listen := "" }

/-- The port is reported, since the interface is looked at later, and the listener not at all. -/
theorem port_reported_first :
    brokenTwice.validate = .error .portZero ∧
      ¬ brokenTwice.FollowsRules .ports ∧ brokenTwice.FollowsRules .routing ∧
      { brokenTwice with rawIngest := {} }.validate = .error .portZero := by
  have reported : brokenTwice.validate = .error .portZero := by decide
  obtain ⟨-, ordered, disabled⟩ := validate_decides_by_section brokenTwice
  obtain ⟨broken, followed⟩ := ordered .portZero reported
  refine ⟨reported, broken, followed .routing (by decide), ?_⟩
  rw [disabled { brokenTwice with rawIngest := {} }
    ⟨rfl, rfl, rfl, .inr ⟨rfl, rfl⟩, .inl rfl, .inl rfl⟩]
  exact reported

end Config

end RegisterGateway
