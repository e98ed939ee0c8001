import RegisterGateway.Gateway.Running
import RegisterGateway.Proofs.Config.Memories

/-!
# Starting with a valid configuration

What a valid configuration describes can be made, up to the point at which the network is needed.
Two texts are not looked at before: the entries of the filters and the address of the broker. And
nothing bounds the number of connections that a port may have, while no listener counts down from
more than `Modbus.Listener.maxLimit`.
-/

namespace RegisterGateway

/-- Errors due to an address that cannot be listened on. -/
inductive StartError.IsBinding : StartError → Prop where
  | address (text : String) (error : AddressError) : IsBinding (.address text error)
  | restAddress (text : String) (error : AddressError) : IsBinding (.restAddress text error)

namespace Config

variable {config : Config} {error : StartError}

/-- Errors due to a text of a configuration that cannot be read: an entry of a filter, or the
address of the broker. -/
inductive Misspells (config : Config) : StartError → Prop where
  | entry {port : UInt16} {settings : PortSettings} {entry : String}
      {invalid : Access.InvalidEntry} (configured : config.ports.find? port = some settings)
      (listed : entry ∈ settings.ipFilter.allow ++ settings.ipFilter.deny)
      (unreadable : Access.IpFilter.compileEntry entry = .error invalid) :
      Misspells config (.filter invalid)
  | broker {invalid : Mqtt.InvalidBroker} (enabled : config.mqtt.enabled = true)
      (unreadable : Mqtt.Broker.parse config.mqtt.broker = .error invalid) :
      Misspells config (.broker invalid)

/-- A port with more connections than a listener can count down from. -/
structure Overflows (config : Config) (port : UInt16) (settings : PortSettings) : Prop where
  configured : config.ports.find? port = some settings
  tooMany : Modbus.Listener.maxLimit < settings.maxConnections

/-- What a configuration describes can be made, unless a text in it cannot be read. -/
structure StartsUp (config : Config) : Prop where
  memories : ∃ registry, config.memories.build = .ok registry
  /-- A listener can be made with the limit of every port. -/
  limits : ∀ port settings, config.ports.find? port = some settings → ∀ resolver filter,
    ∃ listener, Modbus.Listener.make? resolver filter settings.maxConnections = some listener
  listeners : ∀ error, config.listeners = .error error → config.Misspells error
  /-- The ingest listener is made if it is enabled. -/
  rawIngest : ∃ listener, config.rawIngest.listener = .ok listener ∧
    listener.isSome = config.rawIngest.enabled
  subscription : ∀ error, config.mqtt.subscription = .error error → config.Misspells error
  /-- The gateway starts, unless there is an address that nothing can listen on. -/
  gateway : ∀ registry error, Gateway.start config registry = .error error →
    config.Misspells error ∨ error.IsBinding

/-! ## The ingest listener -/

theorem RawIngestSettings.faults_eq_nil_iff {settings : RawIngestSettings} :
    settings.faults = [] ↔ (settings.enabled = true →
      Text.isAllBlank settings.listen = false ∧ minPacketBytes < settings.maxPacketBytes ∧
        settings.readTimeoutMs ≠ 0) := by
  unfold faults
  cases settings.enabled <;> simp

/-- The settings that are valid are those that a listener takes. -/
theorem RawIngestSettings.exists_listener {settings : RawIngestSettings}
    (faultless : settings.faults = []) :
    ∃ listener, settings.listener = .ok listener ∧ listener.isSome = settings.enabled := by
  unfold listener
  cases enabled : settings.enabled with
  | false => exact ⟨none, rfl, rfl⟩
  | true =>
      obtain ⟨named, roomy, patient⟩ := faults_eq_nil_iff.1 faultless enabled
      have roomyToo : ¬settings.maxPacketBytes ≤ RawIngest.Header.byteCount := Nat.not_le.2 roomy
      have taken : RawIngest.ListenerSettings.check
          ⟨settings.listen, settings.maxPacketBytes, settings.readTimeoutMs⟩ = .ok () := by
        simp [RawIngest.ListenerSettings.check, named, roomyToo, patient]
      simp [taken]

theorem rawIngest_of_validate (valid : config.validate = .ok ()) :
    config.rawIngest.faults = [] := by
  have faultless := validate_eq_ok_iff.1 valid
  simp only [faults, List.append_eq_nil_iff] at faultless
  exact faultless.1.1.2

/-! ## The listeners of the ports -/

theorem exists_of_compile_error {allow deny : List String} {invalid : Access.InvalidEntry}
    (failed : Access.IpFilter.compile allow deny = .error invalid) :
    ∃ entry ∈ allow ++ deny, Access.IpFilter.compileEntry entry = .error invalid := by
  unfold Access.IpFilter.compile at failed
  rcases bind_eq_error_iff.1 failed with first | ⟨allowed, -, failed⟩
  · obtain ⟨entry, member, same⟩ := exists_error_of_mapM first
    exact ⟨entry, List.mem_append_left _ member, same⟩
  · rcases bind_eq_error_iff.1 failed with second | ⟨denied, -, failed⟩
    · obtain ⟨entry, member, same⟩ := exists_error_of_mapM second
      exact ⟨entry, List.mem_append_right _ member, same⟩
    · contradiction

theorem exists_make_iff {resolver : Modbus.Resolver} {filter : Access.IpFilter} {limit : Nat} :
    (∃ listener, Modbus.Listener.make? resolver filter limit = some listener) ↔
      limit ≤ Modbus.Listener.maxLimit := by
  simp [Modbus.Listener.make?]

theorem PortSettings.cases_of_listener_error {settings : PortSettings} {port : UInt16}
    {rules : AccessRules} (failed : settings.listener port rules = .error error) :
    (∃ entry invalid, entry ∈ settings.ipFilter.allow ++ settings.ipFilter.deny ∧
        Access.IpFilter.compileEntry entry = .error invalid ∧ error = .filter invalid) ∨
      (Modbus.Listener.maxLimit < settings.maxConnections ∧
        error = .uncountable settings.maxConnections) := by
  unfold listener at failed
  rcases bind_eq_error_iff.1 failed with refused | ⟨filter, -, failed⟩
  · obtain ⟨invalid, notCompiled, rfl⟩ := mapError_eq_error_iff.1 refused
    obtain ⟨entry, listed, unreadable⟩ := exists_of_compile_error notCompiled
    exact .inl ⟨entry, invalid, listed, unreadable, rfl⟩
  · split at failed
    · contradiction
    · rename_i none
      cases failed
      refine .inr ⟨Nat.not_le.1 fun countable => ?_, rfl⟩
      obtain ⟨listener, made⟩ := exists_make_iff.2 countable
      rw [none] at made
      contradiction

theorem cases_of_listeners_error (failed : config.listeners = .error error) :
    config.Misspells error ∨
      ∃ port settings, config.Overflows port settings ∧
        error = .uncountable settings.maxConnections := by
  unfold listeners at failed
  split at failed
  · contradiction
  · obtain ⟨port, settings, configured, refused⟩ := Table.exists_error_of_mapM failed
    rcases PortSettings.cases_of_listener_error refused with
      ⟨entry, invalid, listed, unreadable, rfl⟩ | ⟨tooMany, rfl⟩
    · exact .inl (.entry configured listed unreadable)
    · exact .inr ⟨port, settings, ⟨configured, tooMany⟩, rfl⟩

/-- A port with too many connections keeps all listeners from being made. -/
theorem exists_listeners_error {port : UInt16} {settings : PortSettings}
    (overflows : config.Overflows port settings) : ∃ error, config.listeners = .error error := by
  cases made : config.listeners with
  | error error => exact ⟨error, rfl⟩
  | ok table =>
      exfalso
      unfold listeners at made
      split at made
      · rename_i none
        have some : config.ports.isEmpty = false :=
          Table.isEmpty_of_contains (Option.isSome_of_eq_some overflows.configured)
        rw [none] at some
        contradiction
      · obtain ⟨listener, -, taken⟩ := Table.find?_mapM made overflows.configured
        unfold PortSettings.listener at taken
        obtain ⟨filter, -, taken⟩ := bind_eq_ok_iff.1 taken
        split at taken
        · rename_i counted
          exact overflows.tooMany.not_ge (exists_make_iff.1 ⟨_, counted⟩)
        · contradiction

/-! ## The broker session -/

theorem misspells_of_subscription_error (failed : config.mqtt.subscription = .error error) :
    config.Misspells error := by
  unfold MqttSettings.subscription at failed
  split at failed
  · rename_i enabled
    split at failed
    · contradiction
    · rename_i refused
      cases failed
      exact .broker enabled (map_eq_error_iff.1 refused)
  · contradiction

/-! ## The whole gateway -/

theorem isBinding_of_rest_error {settings : RestSettings} {memories : Memories}
    (failed : settings.bound memories = .error error) : error.IsBinding := by
  unfold RestSettings.bound at failed
  rcases bind_eq_error_iff.1 failed with refused | ⟨-, -, failed⟩
  · obtain ⟨reason, -, rfl⟩ := mapError_eq_error_iff.1 refused
    exact .restAddress settings.address reason
  · contradiction

theorem isBinding_of_bound_error {settings : RawIngestSettings}
    {made : Option RawIngest.Listener} (taken : settings.listener = .ok made)
    (failed : settings.bound = .error error) : error.IsBinding := by
  unfold RawIngestSettings.bound at failed
  rcases bind_eq_error_iff.1 failed with refused | ⟨listener, -, failed⟩
  · rw [taken] at refused
    contradiction
  · cases listener with
    | none => contradiction
    | some listener =>
        rcases bind_eq_error_iff.1 failed with refused | ⟨-, -, failed⟩
        · obtain ⟨reason, -, rfl⟩ := mapError_eq_error_iff.1 refused
          exact .address settings.listen reason
        · contradiction

/-- A gateway that does not start has failed in one of its entrances. -/
theorem cases_of_start_error {registry : Registry} {made : Option RawIngest.Listener}
    (taken : config.rawIngest.listener = .ok made)
    (failed : Gateway.start config registry = .error error) :
    config.listeners = .error error ∨ config.Misspells error ∨ error.IsBinding := by
  unfold Gateway.start at failed
  rcases bind_eq_error_iff.1 failed with refused | ⟨listeners, -, failed⟩
  · exact .inl refused
  rcases bind_eq_error_iff.1 failed with refused | ⟨rawIngest, -, failed⟩
  · exact .inr (.inr (isBinding_of_bound_error taken refused))
  rcases bind_eq_error_iff.1 failed with refused | ⟨subscription, -, failed⟩
  · exact .inr (.inl (misspells_of_subscription_error refused))
  dsimp only at failed
  split at failed
  · rcases bind_eq_error_iff.1 failed with refused | ⟨interface, -, failed⟩
    · exact .inr (.inr (isBinding_of_rest_error (map_eq_error_iff.1 refused)))
    · contradiction
  · contradiction

/-- A valid configuration starts up exactly if no port has more connections than a listener can
count down from. If one has, that or a misspelt filter ends the start. -/
theorem valid_config_starts_iff (valid : config.validate = .ok ()) :
    (config.StartsUp ↔ ∀ port settings, ¬config.Overflows port settings) ∧
      ∀ port settings, config.Overflows port settings →
        ∃ error, config.listeners = .error error ∧
          (config.Misspells error ∨ ∃ port settings, config.Overflows port settings ∧
            error = .uncountable settings.maxConnections) := by
  obtain ⟨ingest, taken, switched⟩ :=
    RawIngestSettings.exists_listener (rawIngest_of_validate valid)
  refine ⟨⟨fun starts port settings overflows => ?_, fun countable => ?_⟩,
    fun port settings overflows => ?_⟩
  · have made := starts.limits port settings overflows.configured .defaultMemory {}
    exact overflows.tooMany.not_ge (exists_make_iff.1 made)
  · have listeners (error : StartError) (failed : config.listeners = .error error) :
        config.Misspells error := by
      rcases cases_of_listeners_error failed with misspells | ⟨port, settings, overflows, -⟩
      · exact misspells
      · exact absurd overflows (countable port settings)
    exact {
      memories :=
        (Memories.exists_build (memories_of_validate valid)).imp fun _ built => built.1
      limits := fun port settings configured _ _ => exists_make_iff.2 <|
        Nat.not_lt.1 fun tooMany => countable port settings ⟨configured, tooMany⟩
      listeners := listeners
      rawIngest := ⟨ingest, taken, switched⟩
      subscription := fun _ => misspells_of_subscription_error
      gateway := fun registry error failed => by
        rcases cases_of_start_error taken failed with refused | known
        · exact .inl (listeners error refused)
        · exact known }
  · obtain ⟨error, failed⟩ := exists_listeners_error overflows
    exact ⟨error, failed, cases_of_listeners_error failed⟩

/-- All entrances of one memory: a port for some number of connections, and a port with an entry in
its filter. -/
def twoPorts (limit : Nat) (entry : String) : Config where
  memories := .ofList [("m", { isDefault := true, coils := { size := 8 } })]
  routing := .ofList [(1, "m")]
  ports := .ofList [
    (502, { policy := ⟨.all, .all, .readWrite, none⟩, maxConnections := limit }),
    (503, { policy := ⟨.all, .all, .readOnly, none⟩, ipFilter := { deny := [entry] } })]
  mqtt := { enabled := true }
  rawIngest := { enabled := true }

/-- The largest limit is counted down from. The filter of the other port is misspelt, and that is
reported. -/
theorem largest_limit_starts :
    (twoPorts 0x1FFFFFFFFFFFFFFF "10.0.0.0/40").validate = .ok () ∧
      (twoPorts 0x1FFFFFFFFFFFFFFF "10.0.0.0/40").StartsUp ∧
      (twoPorts 0x1FFFFFFFFFFFFFFF "10.0.0.0/40").listeners =
        .error (.filter ⟨"10.0.0.0/40"⟩) := by
  have valid : (twoPorts 0x1FFFFFFFFFFFFFFF "10.0.0.0/40").validate = .ok () := rfl
  refine ⟨valid, (valid_config_starts_iff valid).1.2 ?_, rfl⟩
  rintro port settings ⟨configured, tooMany⟩
  have member := Table.mem_entries_iff.2 configured
  rcases List.mem_cons.1 member with first | rest
  · cases first
    exact absurd tooMany (by decide)
  · cases List.mem_singleton.1 rest
    exact absurd tooMany (by decide)

/-- One connection more ends the program, although the configuration is valid. -/
theorem larger_limit_ends_program :
    (twoPorts 0x2000000000000000 "10.0.0.0/8").validate = .ok () ∧
      (twoPorts 0x2000000000000000 "10.0.0.0/8").listeners =
        .error (.uncountable 0x2000000000000000) ∧
      ¬(twoPorts 0x2000000000000000 "10.0.0.0/8").StartsUp := by
  refine ⟨rfl, rfl, fun starts => ?_⟩
  obtain ⟨listener, made⟩ := starts.limits 502 _ rfl .defaultMemory {}
  contradiction

end Config

end RegisterGateway
