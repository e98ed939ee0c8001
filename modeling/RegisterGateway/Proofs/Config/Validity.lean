import Mathlib
import RegisterGateway.Config.Validity

/-!
# What validity says

A configuration is valid if none of its parts has a fault. Part by part this is said here without
faults: what holds of a memory, of all memories together, and of the routing.
-/

namespace RegisterGateway.Config

@[simp] theorem Fault.when_eq_nil_iff (fault : Fault) (present : Bool) :
    fault.when present = [] ↔ present = false := by
  cases present <;> simp [Fault.when]

theorem validate_eq_ok_iff {config : Config} : config.validate = .ok () ↔ config.faults = [] := by
  unfold validate
  cases config.faults <;> simp [firstFault]

theorem validate_eq_error_iff {config : Config} {fault : Fault} :
    config.validate = .error fault ↔ config.faults.head? = some fault := by
  unfold validate
  cases config.faults <;> simp [firstFault]

/-! ## Memories -/

/-- What holds of a memory without fault: its key can be read, its areas have no more cells than
there are addresses, and its gate, if it is sealed, is one of its discrete inputs. -/
structure MemorySettings.IsSound (settings : MemorySettings) (key : String) : Prop where
  named : Text.isAllBlank key = false
  sizes : ∀ area, (settings.area area).size ≤ maxAreaSize
  gate : ∀ gate, settings.gate? = some gate →
    gate.area = Area.discreteInputs.name ∧ gate.address < settings.discreteInputs.size

theorem GateSettings.faults_eq_nil_iff {gate : GateSettings} {key : String} {inputs : Nat} :
    gate.faults key inputs = [] ↔ gate.area = Area.discreteInputs.name ∧ gate.address < inputs := by
  simp [faults]

theorem MemorySettings.faults_eq_nil_iff {settings : MemorySettings} {key : String} :
    settings.faults key = [] ↔ settings.IsSound key := by
  have everyArea (area : Area) : area ∈ Area.all := by
    cases area <;> decide
  simp only [faults, List.append_eq_nil_iff, Fault.when_eq_nil_iff, List.flatMap_eq_nil_iff,
    Option.mem_toList, GateSettings.faults_eq_nil_iff, decide_eq_false_iff_not, Nat.not_lt]
  constructor
  · rintro ⟨⟨named, sizes⟩, gate⟩
    exact ⟨named, fun area => sizes area (everyArea area), gate⟩
  · rintro ⟨named, sizes, gate⟩
    exact ⟨⟨named, fun area _ => sizes area⟩, gate⟩

/-- What holds of memories without fault: each of them is sound, and one is the default. -/
structure Memories.AreSound (memories : Memories) : Prop where
  each : ∀ key settings, memories.find? key = some settings → settings.IsSound key
  oneDefault : memories.defaultCount = 1

theorem Memories.faults_eq_nil_iff {memories : Memories} :
    memories.faults = [] ↔ memories.AreSound := by
  simp only [faults, List.append_eq_nil_iff, Fault.when_eq_nil_iff, List.flatMap_eq_nil_iff,
    MemorySettings.faults_eq_nil_iff, decide_eq_false_iff_not]
  constructor
  · rintro ⟨⟨⟨-, each⟩, some⟩, notSeveral⟩
    exact ⟨fun key settings present => each (key, settings) (Table.mem_entries_iff.2 present),
      by omega⟩
  · rintro ⟨each, oneDefault⟩
    refine ⟨⟨⟨?_, fun entry member => each _ _ (Table.mem_entries_iff.1 member)⟩, by omega⟩,
      by omega⟩
    -- Among no memories there is no default.
    cases entries : memories.entries with
    | nil =>
        rw [defaultCount, Table.values, entries] at oneDefault
        contradiction
    | cons => simp [Table.isEmpty, entries]

/-! ## Routing -/

/-- Routing is without fault if some unit is routed, and every unit that is routed is routed to a
memory. -/
theorem routingFaults_eq_nil_iff {memories : Memories} {routing : Table UInt8 String} :
    routingFaults memories routing = [] ↔
      routing.isEmpty = false ∧
        ∀ unit key, routing.find? unit = some key → memories.contains key = true := by
  simp only [routingFaults, List.append_eq_nil_iff, Fault.when_eq_nil_iff,
    List.flatMap_eq_nil_iff, Bool.not_eq_false']
  refine and_congr_right fun _ => ⟨fun known unit key routed => ?_, fun known entry member => ?_⟩
  · exact known (unit, key) (Table.mem_entries_iff.2 routed)
  · exact known _ _ (Table.mem_entries_iff.1 member)

/-! ## Whole configurations -/

theorem memories_of_validate {config : Config} (valid : config.validate = .ok ()) :
    config.memories.AreSound := by
  have faultless := validate_eq_ok_iff.1 valid
  simp only [faults, List.append_eq_nil_iff, Memories.faults_eq_nil_iff] at faultless
  exact faultless.1.1.1.1.1

theorem routing_of_validate {config : Config} (valid : config.validate = .ok ()) {unit : UInt8}
    {key : String} (routed : config.routing.find? unit = some key) :
    config.memories.contains key = true := by
  have faultless := validate_eq_ok_iff.1 valid
  simp only [faults, List.append_eq_nil_iff, routingFaults_eq_nil_iff] at faultless
  exact faultless.1.1.1.1.2.2 unit key routed

end RegisterGateway.Config
