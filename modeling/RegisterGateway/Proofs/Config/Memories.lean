import RegisterGateway.Config.Memories
import RegisterGateway.Gateway.Startup
import RegisterGateway.Proofs.Config.Validity
import RegisterGateway.Proofs.History
import RegisterGateway.Proofs.Results

/-!
# The memories of a valid configuration

A valid configuration can be built: every memory that is configured becomes a store of its sizes,
with the gate that is configured if it is sealed, and no other memory is there. What the access
rules of the configuration let through finds a memory, as long as the gateway runs.
-/

namespace RegisterGateway

namespace Config

/-! ## One memory -/

/-- What holds of the store of a memory. -/
structure MemorySettings.Describes (settings : MemorySettings) (store : Store) : Prop where
  sizes : ∀ area, store.size area = (settings.area area).size
  /-- A sealed memory waits for its gate, which is one of its discrete inputs. -/
  gated : ∀ sealing, settings.sealing = some sealing → sealing.enabled = true →
    sealing.gate.address < settings.discreteInputs.size ∧
      ∃ gate : UInt16, store.gate = some gate ∧ gate.toNat = sealing.gate.address ∧
        store.state = .preRun
  /-- Any other memory has no gate, and runs. -/
  ungated : (∀ sealing, settings.sealing = some sealing → sealing.enabled = false) →
    store.gate = none ∧ store.state = .run
  /-- The single value true in the cell of the gate begins the run. -/
  opens : ∀ gate, store.gate = some gate → ∀ mode,
    ∃ next, store.writeCells mode .discreteInputs gate [true] = .ok next ∧ next.state = .run

theorem MemorySettings.gate?_eq_some_iff {settings : MemorySettings} {gate : GateSettings} :
    settings.gate? = some gate ↔
      ∃ sealing, settings.sealing = some sealing ∧ sealing.enabled = true ∧
        sealing.gate = gate := by
  simp [gate?, Option.filter_eq_some_iff, and_assoc]

theorem MemorySettings.gate?_eq_none_iff {settings : MemorySettings} :
    settings.gate? = none ↔
      ∀ sealing, settings.sealing = some sealing → sealing.enabled = false := by
  simp [gate?, Option.filter_eq_none_iff]

theorem MemorySettings.size_ofLayout (settings : MemorySettings) (gate : Option UInt16)
    (area : Area) :
    (Store.ofLayout settings.layout gate).size area = (settings.area area).size := by
  cases area <;> simp [Store.size, Store.cells, Store.ofLayout, layout, MemorySettings.area]

/-- The value true fits into the cell of a gate that is one of the discrete inputs, and begins the
run. -/
theorem exists_run_of_gate {store : Store} {gate : UInt16} (gated : store.gate = some gate)
    (inside : gate.toNat < store.size .discreteInputs) (mode : WriteMode) :
    ∃ next, store.writeCells mode .discreteInputs gate [true] = .ok next ∧ next.state = .run := by
  have fits : store.inRange .discreteInputs gate [true].length = true := by
    rw [Store.inRange_iff_of_count store .discreteInputs gate (by decide) (by decide)]
    exact inside
  refine ⟨_, Store.writeCells_eq_ok_iff.2 ⟨?_, fits, rfl⟩, ?_⟩
  · simp [Store.refusesAsSealed, Area.isOperator]
  · have opened : AreaWrite.valueAt? ⟨.discreteInputs, gate, [true]⟩ .discreteInputs gate.toNat =
        some true := by
      simp [AreaWrite.valueAt?_self]
    rw [Store.state_after, if_pos ⟨gate, gated, opened⟩]

theorem MemorySettings.exists_store {settings : MemorySettings} {key : String}
    (sound : settings.IsSound key) :
    ∃ store, settings.store key = .ok store ∧ settings.Describes store := by
  cases gateOf : settings.gate? with
  | none =>
      have ungated := gate?_eq_none_iff.1 gateOf
      refine ⟨.ofLayout settings.layout none, by simp only [store, gateOf], ?_⟩
      exact {
        sizes := settings.size_ofLayout none
        gated := fun sealing present enabled => by simp [ungated sealing present] at enabled
        ungated := fun _ => ⟨rfl, rfl⟩
        opens := nofun }
  | some gate =>
      obtain ⟨sealing, present, enabled, rfl⟩ := gate?_eq_some_iff.1 gateOf
      have inside := (sound.gate sealing.gate gateOf).2
      have addresses : settings.discreteInputs.size ≤ 65536 := sound.sizes .discreteInputs
      have word : sealing.gate.address < 65536 := Nat.lt_of_lt_of_le inside addresses
      have exact : (UInt16.ofNat sealing.gate.address).toNat = sealing.gate.address :=
        UInt16.toNat_ofNat_of_lt' word
      refine ⟨.ofLayout settings.layout (some (UInt16.ofNat sealing.gate.address)),
        by simp only [store, gateOf, if_pos word], ?_⟩
      exact {
        sizes := settings.size_ofLayout _
        gated := fun other presentToo _ => by
          rw [present] at presentToo
          cases presentToo
          exact ⟨inside, _, rfl, exact, rfl⟩
        ungated := fun none => by simp [none sealing present] at enabled
        opens := fun gate isGate mode => by
          cases isGate
          refine exists_run_of_gate rfl ?_ mode
          rw [settings.size_ofLayout, exact]
          exact inside }

/-! ## All memories -/

/-- One key stands for the default memory, and it is the only one that does. -/
theorem Memories.exists_default {memories : Memories} (sound : memories.AreSound) :
    ∃ key, memories.defaultKey? = some key ∧ memories.contains key = true ∧
      ∀ other settings, memories.find? other = some settings →
        (settings.isDefault = true ↔ other = key) := by
  have one := sound.oneDefault
  rw [defaultCount, Table.values, List.countP_map, List.countP_eq_length_filter,
    List.length_eq_one_iff] at one
  obtain ⟨⟨key, chosen⟩, single⟩ := one
  have only : memories.entries.filter (fun entry => entry.2.isDefault) = [(key, chosen)] := single
  have isMarked (other : String) (settings : MemorySettings) :
      (other, settings) ∈ memories.entries ∧ settings.isDefault = true ↔
        (other, settings) = (key, chosen) := by
    rw [← List.mem_singleton (a := (other, settings)), ← only, List.mem_filter]
  obtain ⟨member, marked⟩ := (isMarked key chosen).2 rfl
  refine ⟨key, ?_, ?_, fun other settings present => ⟨fun isDefault => ?_, ?_⟩⟩
  · have first : memories.entries.find? (fun entry => entry.2.isDefault) = some (key, chosen) := by
      rw [← List.head?_filter, only, List.head?_cons]
    rw [defaultKey?, first, Option.map_some]
  · rw [Table.contains, Table.mem_entries_iff.1 member, Option.isSome_some]
  · have same := (isMarked other settings).1 ⟨Table.mem_entries_iff.2 present, isDefault⟩
    exact congrArg Prod.fst same
  · rintro rfl
    rw [Table.mem_entries_iff.1 member] at present
    cases present
    exact marked

/-! ## The registry -/

theorem Memories.exists_build {memories : Memories} (sound : memories.AreSound) :
    ∃ registry, memories.build = .ok registry ∧ registry.memories.keys = memories.keys ∧
      (∀ key settings, memories.find? key = some settings →
        ∃ store, registry.find? key = some store ∧ settings.Describes store) ∧
      registry.contains registry.defaultKey = true ∧
      ∀ key settings, memories.find? key = some settings →
        (settings.isDefault = true ↔ key = registry.defaultKey) := by
  have made (key : String) (settings : MemorySettings)
      (present : memories.find? key = some settings) :
      ∃ store, settings.store key = .ok store ∧ settings.Describes store :=
    MemorySettings.exists_store (sound.each key settings present)
  obtain ⟨stores, built⟩ := Table.exists_mapM fun key settings present =>
    (made key settings present).imp fun _ store => store.1
  obtain ⟨defaultKey, first, known, marked⟩ := Memories.exists_default sound
  have keys : stores.keys = memories.keys := Table.keys_of_mapM built
  have held : stores.contains defaultKey = true := by
    rw [Table.contains_iff_mem_keys, keys, ← Table.contains_iff_mem_keys]
    exact known
  have filled : stores.isEmpty = false := Table.isEmpty_of_contains held
  refine ⟨⟨stores, defaultKey⟩, ?_, keys, fun key settings present => ?_, held, marked⟩
  · have registered : Registry.make stores defaultKey = .ok ⟨stores, defaultKey⟩ := by
      simp [Registry.make, filled, held]
    refine bind_eq_ok_iff.2 ⟨stores, mapError_eq_ok_iff.2 built, ?_⟩
    rw [first]
    exact mapError_eq_ok_iff.2 registered
  · obtain ⟨store, found, isMade⟩ := Table.find?_mapM built present
    obtain ⟨expected, isMadeToo, describes⟩ := made key settings present
    rw [isMade] at isMadeToo
    cases isMadeToo
    exact ⟨store, found, describes⟩

end Config

/-! ## Access to the memories -/

/-- What access rules resolve to is what the unit is routed to. -/
theorem AccessRules.routed_of_resolve {rules : AccessRules} {port : UInt16} {unit code : UInt8}
    {key : String} (resolved : rules.resolve port unit code = .ok key) :
    rules.routing.find? unit = some key := by
  unfold resolve at resolved
  split at resolved
  · contradiction
  · rename_i memory routed
    suffices memory = key by rw [routed, this]
    split at resolved
    · exact Except.ok.inj resolved
    · repeat' split at resolved
      all_goals first | contradiction | exact Except.ok.inj resolved

/-- Operations leave the memories there. -/
theorem Registry.contains_afterRun (registry : Registry) (operations : List Operation)
    (key : String) : (registry.afterRun operations).contains key = registry.contains key := by
  have kept := congrArg Option.isSome ((follows_afterRun operations registry).memory key)
  rwa [Option.isSome_map] at kept

/-- Where every routed unit is routed to a memory, a request finds none exactly if it is denied. -/
theorem Modbus.find?_eq_none_iff_denied {rules : AccessRules} {registry : Registry}
    (routed : ∀ unit key, rules.routing.find? unit = some key → registry.contains key = true)
    (defaultKey : String) (port : UInt16) (unit code : UInt8) :
    ((Resolver.governed port rules).reach defaultKey).find? registry unit code = none ↔
      ∃ denial, rules.resolve port unit code = .error denial := by
  cases resolved : rules.resolve port unit code with
  | error denial => simp [Reach.find?, Resolver.reach, resolved, Except.toOption]
  | ok key =>
      obtain ⟨store, present⟩ :=
        Option.isSome_iff_exists.1 (routed unit key (AccessRules.routed_of_resolve resolved))
      have found : registry.find? key = some store := present
      simp [Reach.find?, Resolver.reach, resolved, Except.toOption, found]

namespace Config

/-- What holds of the registry that a configuration is built into. -/
structure Describes (config : Config) (registry : Registry) : Prop where
  /-- The memories are those that are configured, and no others. -/
  keys : registry.memories.keys = config.memories.keys
  memory : ∀ key settings, config.memories.find? key = some settings →
    ∃ store, registry.find? key = some store ∧ settings.Describes store
  /-- The default memory is the one that is marked as such. -/
  default : registry.contains registry.defaultKey = true ∧
    ∀ key settings, config.memories.find? key = some settings →
      (settings.isDefault = true ↔ key = registry.defaultKey)
  /-- A request finds no memory exactly if the access rules deny it, whatever operations have been
  carried out before. -/
  access : ∀ (operations : List Operation) (port : UInt16) (unit code : UInt8),
    ((Modbus.Resolver.governed port config.rules).reach registry.defaultKey).find?
        (registry.afterRun operations) unit code = none ↔
      ∃ denial, config.rules.resolve port unit code = .error denial

/-- A valid configuration can be built, and what it is built into is what it says. -/
theorem valid_config_builds {config : Config} (valid : config.validate = .ok ()) :
    ∃ registry, config.memories.build = .ok registry ∧ config.Describes registry := by
  obtain ⟨registry, built, keys, memory, held, marked⟩ :=
    Memories.exists_build (memories_of_validate valid)
  refine ⟨registry, built, keys, memory, ⟨held, marked⟩, fun operations port unit code => ?_⟩
  refine Modbus.find?_eq_none_iff_denied (fun unit key routed => ?_) _ port unit code
  rw [Registry.contains_afterRun, Registry.contains, Table.contains_iff_mem_keys, keys,
    ← Table.contains_iff_mem_keys]
  exact routing_of_validate valid routed

/-- Two memories, the second of which waits for the last discrete input that has an address, and a
port that lets its peers read the first one. -/
def waitingForLastInput : Config where
  memories := .ofList [("a", { isDefault := true, coils := { size := 8 } }),
    ("b",
      { discreteInputs := { size := 65536 },
        sealing := some ⟨true, "discrete_inputs", 65535⟩ })]
  routing := .ofList [(1, "a"), (2, "b")]
  ports := .ofList [(502, { policy := ⟨.all, .listed (.ofList ["a"]), .readOnly, none⟩ })]

/-- The last discrete input begins the run of the second memory; a request to the first one finds
it, and a request to the second one is denied. -/
theorem last_input_begins_run :
    waitingForLastInput.validate = .ok () ∧ ∃ registry store next,
      waitingForLastInput.memories.build = .ok registry ∧ registry.defaultKey = "a" ∧
      registry.find? "b" = some store ∧ store.size .discreteInputs = 65536 ∧
      store.state = .preRun ∧
      store.writeCells .unlessSealed .discreteInputs 65535 [true] = .ok next ∧
      next.state = .run ∧
      ((Modbus.Resolver.governed 502 waitingForLastInput.rules).reach "a").find? registry 1 1 ≠
        none ∧
      ((Modbus.Resolver.governed 502 waitingForLastInput.rules).reach "a").find? registry 2 1 =
        none := by
  have valid : waitingForLastInput.validate = .ok () := rfl
  obtain ⟨registry, built, describes⟩ := valid_config_builds valid
  obtain ⟨store, present, described⟩ := describes.memory "b" _ rfl
  obtain ⟨-, gate, gated, address, waits⟩ := described.gated _ rfl rfl
  have isLast : gate = 65535 := UInt16.toNat.inj address
  subst isLast
  obtain ⟨next, written, runs⟩ := described.opens _ gated .unlessSealed
  have isDefault : "a" = registry.defaultKey := (describes.default.2 "a" _ rfl).1 rfl
  have access := describes.access []
  rw [← isDefault] at access
  refine ⟨valid, registry, store, next, built, isDefault.symm, present,
    described.sizes .discreteInputs, waits, written, runs, fun missing => ?_, ?_⟩
  · obtain ⟨denial, denied⟩ := (access 502 1 1).1 missing
    contradiction
  · exact (access 502 2 1).2 ⟨.memoryNotAllowed 502 "b", rfl⟩

end Config

end RegisterGateway
