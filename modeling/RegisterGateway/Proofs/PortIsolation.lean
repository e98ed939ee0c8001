import RegisterGateway.Config.Validity
import RegisterGateway.Gateway.Startup
import RegisterGateway.Proofs.Modbus.Isolation

/-!
# Isolation of ports

The rules of a port decide which memories its peers can reach at all. Whatever they send, in
whatever order, the answers tell nothing of the other memories, and only the areas of the operator
of reachable memories that run can change; on a read-only port nothing changes.
-/

namespace RegisterGateway

/-- Whether the policy of a port lets some unit through that is routed to the memory of a key. -/
def PortPolicy.Reaches (policy : PortPolicy) (routing : Table UInt8 String) (key : String) : Prop :=
  ∃ unit, policy.unitIds.selects unit = true ∧ routing.find? unit = some key ∧
    policy.memories.selects key = true

/-- A port with a policy resolves to memories that the policy reaches, with codes that it
allows. -/
theorem AccessRules.reaches_of_resolve {rules : AccessRules} {port : UInt16} {policy : PortPolicy}
    (governed : rules.ports.find? port = some policy) {unit code : UInt8} {key : String}
    (resolved : rules.resolve port unit code = .ok key) :
    policy.Reaches rules.routing key ∧ policy.allowsFunctionCode code = true := by
  unfold resolve at resolved
  split at resolved
  · contradiction
  · rename_i memory routed
    simp only [governed] at resolved
    split at resolved
    · contradiction
    · rename_i unitSelected
      split at resolved
      · contradiction
      · rename_i memorySelected
        split at resolved
        · contradiction
        · rename_i codeAllowed
          cases resolved
          exact ⟨⟨unit, by simpa using unitSelected, routed, by simpa using memorySelected⟩,
            by simpa using codeAllowed⟩

/-- A read-only policy allows codes that read only. -/
theorem PortPolicy.readCodes_of_readOnly {policy : PortPolicy}
    (readOnly : policy.access = .readOnly) {code : UInt8}
    (allowed : policy.allowsFunctionCode code = true) :
    readCodes.contains code = true := by
  unfold allowsFunctionCode at allowed
  split at allowed
  · contradiction
  · simpa only [readOnly] using allowed

namespace Config

variable {config : Config} {port : UInt16} {settings : PortSettings}

theorem find?_rules (configured : config.ports.find? port = some settings) :
    config.rules.ports.find? port = some settings.policy := by
  rw [rules, Table.find?_map, configured, Option.map_some]

/-- The listener of a configured port resolves by the access rules of its port. -/
theorem resolver_of_listeners {listeners : Table UInt16 Modbus.Listener}
    {listener : Modbus.Listener} (configured : config.ports.find? port = some settings)
    (started : config.listeners = .ok listeners) (listens : listeners.find? port = some listener) :
    listener.resolver = .governed port config.rules := by
  have present : config.ports.isEmpty = false := by
    have entry := List.ne_nil_of_mem (Table.mem_entries_iff.2 configured)
    simpa [Table.isEmpty] using entry
  rw [Config.listeners, present] at started
  obtain ⟨original, -, made⟩ := Table.find?_of_mapM started listens
  obtain ⟨filter, -, made⟩ := bind_eq_ok_iff.1 made
  split at made
  · rename_i counted possible
    cases made
    unfold Modbus.Listener.make? at possible
    split at possible
    · cases possible
      rfl
    · contradiction
  · contradiction

/-- What a governed port resolves to is reached by the policy of the port. -/
theorem reaches_of_reach (configured : config.ports.find? port = some settings)
    {defaultKey : String} {unit code : UInt8} {key : String}
    (reached :
      (Modbus.Resolver.governed port config.rules).reach defaultKey unit code = some key) :
    settings.policy.Reaches config.routing key ∧
      settings.policy.allowsFunctionCode code = true := by
  have resolved : config.rules.resolve port unit code = .ok key := by
    simp only [Modbus.Resolver.reach] at reached
    cases result : config.rules.resolve port unit code with
    | error denial => simp [result, Except.toOption] at reached
    | ok memory => simpa [result, Except.toOption] using reached
  exact AccessRules.reaches_of_resolve (find?_rules configured) resolved

end Config

/-! ## Sequences of requests -/

/-- The answers to requests that arrive one after the other, each with its unit id, and the
registry after them. -/
def Modbus.answers (resolver : Resolver) (requests : List (UInt8 × List UInt8))
    (registry : Registry) : List (List UInt8) × Registry :=
  sequence (fun request registry => answer resolver request.1 request.2 registry) requests registry

/-- What holds of the registry after any requests at one port. -/
structure Config.IsolatedAt (config : Config) (policy : PortPolicy) (before after : Registry) :
    Prop where
  /-- Memories that the policy does not reach are as they were; of the others only the areas of
  the operator have changed, and only during their run. -/
  changed : before.ChangedWithin (policy.Reaches config.routing) after
  /-- On a read-only port nothing has changed. -/
  readOnly : policy.access = .readOnly → after = before

theorem Config.isolatedAt_answers {config : Config} {port : UInt16} {settings : PortSettings}
    (configured : config.ports.find? port = some settings) (requests : List (UInt8 × List UInt8))
    (registry : Registry) :
    config.IsolatedAt settings.policy registry
      (Modbus.answers (.governed port config.rules) requests registry).2 where
  changed := by
    have keeps (request : UInt8 × List UInt8) (state : Registry)
        (soFar : registry.ChangedWithin (settings.policy.Reaches config.routing) state) :
        registry.ChangedWithin (settings.policy.Reaches config.routing)
          (Modbus.answer (.governed port config.rules) request.1 request.2 state).2 :=
      soFar.trans (Modbus.changedWithin_answerBy
        (fun _ _ _ reached => (reaches_of_reach configured reached).1) request.1 request.2 state)
    exact sequence_invariant keeps requests (.refl registry)
  readOnly noWrites := by
    have keeps (request : UInt8 × List UInt8) (state : Registry) (unchanged : state = registry) :
        (Modbus.answer (.governed port config.rules) request.1 request.2 state).2 = registry := by
      rw [← unchanged]
      exact Modbus.answerBy_of_readCodes
        (fun _ _ _ reached =>
          PortPolicy.readCodes_of_readOnly noWrites (reaches_of_reach configured reached).2)
        request.1 request.2 state
    exact sequence_invariant keeps requests rfl

/-- Peers of a configured port learn nothing of memories that its policy does not reach, nor of
memories before their run, and change nothing outside the areas of the operator of reachable
memories that run. -/
theorem port_isolates_memories {config : Config} {port : UInt16} {settings : Config.PortSettings}
    (configured : config.ports.find? port = some settings) {left right : Registry}
    (alike : left.AlikeWithin (settings.policy.Reaches config.routing) right)
    (requests : List (UInt8 × List UInt8)) :
    (∀ (listeners : Table UInt16 Modbus.Listener) (listener : Modbus.Listener),
      config.listeners = .ok listeners → listeners.find? port = some listener →
        listener.resolver = .governed port config.rules) ∧
    (Modbus.answers (.governed port config.rules) requests left).1 =
      (Modbus.answers (.governed port config.rules) requests right).1 ∧
    config.IsolatedAt settings.policy left
      (Modbus.answers (.governed port config.rules) requests left).2 ∧
    config.IsolatedAt settings.policy right
      (Modbus.answers (.governed port config.rules) requests right).2 := by
  refine ⟨fun listeners listener started listens =>
    Config.resolver_of_listeners configured started listens, ?_,
    Config.isolatedAt_answers configured requests left,
    Config.isolatedAt_answers configured requests right⟩
  have step (request : UInt8 × List UInt8) (first second : Registry)
      (related : first.AlikeWithin (settings.policy.Reaches config.routing) second) :
      (Modbus.answer (.governed port config.rules) request.1 request.2 first).1 =
          (Modbus.answer (.governed port config.rules) request.1 request.2 second).1 ∧
        (Modbus.answer (.governed port config.rules) request.1 request.2 first).2.AlikeWithin
          (settings.policy.Reaches config.routing)
          (Modbus.answer (.governed port config.rules) request.1 request.2 second).2 :=
    Modbus.answerBy_alike
      (fun _ _ _ reached => (Config.reaches_of_reach configured reached).1) request.1 request.2
      related
  exact (sequence_simulation _ step requests alike).1

/-- Two memories, each routed to a unit of its own, and one port that lets its peers at the first
memory only. -/
def twoMemories : Config where
  memories := .ofList [("a", { isDefault := true, holdingRegisters := { size := 2 } }),
    ("b", { holdingRegisters := { size := 1 } })]
  routing := .ofList [(1, "a"), (2, "b")]
  ports := .ofList [(502, { policy := ⟨.all, .listed (.ofList ["a"]), .readWrite, none⟩ })]

/-- The registry of the two memories, the second of which holds one word. -/
def twoMemoriesHolding (word : UInt16) : Registry :=
  ⟨.ofList [("a", .ofLayout ⟨0, 0, 2, 0⟩ none), ("b", ⟨[], [], [word], [], none, .run⟩)], "a"⟩

/-- The word of the second memory makes no difference to the peers of the port. -/
theorem second_memory_hidden :
    twoMemories.validate = .ok () ∧
      twoMemories.ports.find? 502 =
        some { policy := ⟨.all, .listed (.ofList ["a"]), .readWrite, none⟩ } ∧
      (twoMemoriesHolding 0).AlikeWithin
        (PortPolicy.Reaches ⟨.all, .listed (.ofList ["a"]), .readWrite, none⟩ twoMemories.routing)
        (twoMemoriesHolding 7) ∧
      (Modbus.answers (.governed 502 twoMemories.rules)
          [(1, [6, 0, 1, 0x12, 0x34]), (1, [3, 0, 0, 0, 2]), (2, [3, 0, 0, 0, 1])]
          (twoMemoriesHolding 7)).1 =
        [[6, 0, 1, 0x12, 0x34], [3, 4, 0, 0, 0x12, 0x34], [0x83, 2]] := by
  have configured : twoMemories.ports.find? 502 =
      some { policy := ⟨.all, .listed (.ofList ["a"]), .readWrite, none⟩ } := rfl
  have alike : (twoMemoriesHolding 0).AlikeWithin
      (PortPolicy.Reaches ⟨.all, .listed (.ofList ["a"]), .readWrite, none⟩ twoMemories.routing)
      (twoMemoriesHolding 7) := by
    rintro key ⟨unit, -, -, selected⟩
    have isFirst : key = "a" := List.mem_singleton.1 (List.contains_iff_mem.1 selected)
    subst isFirst
    exact .inl rfl
  exact ⟨rfl, configured, alike, (port_isolates_memories configured alike _).2.1.symm.trans rfl⟩

end RegisterGateway
