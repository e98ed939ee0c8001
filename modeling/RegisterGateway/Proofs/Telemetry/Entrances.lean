import RegisterGateway.Proofs.History
import RegisterGateway.Proofs.Modbus.Connection
import RegisterGateway.Proofs.Rest.Presetting

/-!
# What is counted at the entrances

A command is counted as one batch, whichever entrance it comes by, and its entrance adds what it
makes of the outcome. What is counted for a request or a message therefore goes by the write that
it has made.
-/

namespace RegisterGateway

/-! ## Commands -/

/-- What can come of a command: it makes the write that it asks for, and the number of values
counts for it, or it is refused. -/
inductive Plant.Ingested (plant : Plant) (accepted refused : List CountedEvent)
    (command : Ingest.Command) : Except Ingest.IngestError Nat × Plant → Prop where
  | written {key : String} {write : AreaWrite} {registry : Registry}
      (asked : command.asked? = some (key, write))
      (ingested : command.ingest plant.registry = .ok (write.values.length, registry)) :
      Ingested plant accepted refused command (.ok write.values.length,
        (plant.withRegistry registry).recordAll (.batchWritten write.values.length :: accepted))
  | refused {error : Ingest.IngestError} (failed : command.ingest plant.registry = .error error) :
      Ingested plant accepted refused command
        (.error error, plant.recordAll (.batchRejected :: refused))

theorem Plant.ingested (plant : Plant) (accepted refused : List CountedEvent)
    (command : Ingest.Command) :
    plant.Ingested accepted refused command (plant.ingest accepted refused command) := by
  unfold Plant.ingest
  cases ingested : command.ingest plant.registry with
  | error error => exact .refused ingested
  | ok result =>
      obtain ⟨written, registry⟩ := result
      obtain ⟨key, write, asked, -⟩ := Ingest.written_of_ingest ingested
      obtain rfl := Ingest.length_of_ingest ingested asked
      exact .written asked ingested

/-- What is counted for a command, given what its entrance adds and the write that it has made. -/
inductive Ingest.Counts (accepted refused : List CountedEvent) :
    Option (String × AreaWrite) → List CountedEvent → Prop where
  | written {key : String} {write : AreaWrite} :
      Counts accepted refused (some (key, write)) (.batchWritten write.values.length :: accepted)
  | refused : Counts accepted refused none (.batchRejected :: refused)

/-! ## Requests over HTTP -/

namespace Rest

/-- What is counted for a request besides itself, going by the write that it has made. -/
inductive Counts : Option (String × AreaWrite) → List CountedEvent → Prop where
  | nothing : Counts none []
  | unauthorised : Counts none [.restUnauthorized]
  | read : Counts none [.restRead]
  | rejected : Counts none [.restRejected]
  | command {made : Option (String × AreaWrite)} {events : List CountedEvent}
      (batch : Ingest.Counts [.restIngest] [.restRejected] made events) : Counts made events

variable {request : Request} {response : Response}

theorem preset?_of_status (succeeded : response.status = 200) :
    preset? request response = request.asked? :=
  if_pos succeeded

theorem preset?_of_status_ne (failed : response.status ≠ 200) : preset? request response = none :=
  if_neg failed

theorem preset?_of_isRead (reads : request.isRead = true) : preset? request response = none := by
  rw [preset?, asked?_eq_none_of_isRead reads, ite_self]

theorem preset?_finishing : preset? request (finishing request response) =
    preset? request response := by
  rw [preset?, preset?, status_finishing]

/-- Reading a range is counted where it succeeds; the other endpoints that are looked at count
nothing. -/
theorem counts_of_shown {endpoint : Endpoint} (different : endpoint ≠ .ingest)
    (interface : Interface) (status : Option Mqtt.Status) (request : Request) (plant : Plant) :
    ∃ events, (events = [] ∨ events = [.restRead]) ∧
      (endpoint.answer interface status request plant).2.counters =
        plant.counters.recordAll events := by
  cases endpoint with
  | ingest => contradiction
  | health | memories | statistics | broker => exact ⟨[], .inl rfl, rfl⟩
  | readMemory =>
      simp only [Endpoint.answer, answerRead]
      repeat' split
      all_goals first | exact ⟨[], .inl rfl, rfl⟩ | exact ⟨[.restRead], .inr rfl, rfl⟩

theorem counts_answerIngest
    (posted : Endpoint.ofPath? request.target.path = some .ingest ∧ request.method = "POST")
    (interface : Interface) (plant : Plant) :
    ∃ events, Counts (preset? request (answerIngest interface request plant).1) events ∧
      (answerIngest interface request plant).2.counters = plant.counters.recordAll events := by
  unfold answerIngest
  split
  · exact ⟨[], .nothing, rfl⟩
  · split
    · exact ⟨[.restRejected], .rejected, rfl⟩
    · rename_i command inBody
      split
      · exact ⟨[.restRejected], .rejected, rfl⟩
      · have ingested := plant.ingested [.restIngest] [.restRejected] command
        generalize plant.ingest [.restIngest] [.restRejected] command = result at ingested ⊢
        cases ingested with
        | refused =>
            refine ⟨_, ?_, rfl⟩
            rw [preset?_of_status_ne (status_ingestRefused_ne _)]
            exact .command .refused
        | written asked =>
            refine ⟨_, ?_, rfl⟩
            rw [preset?_of_status rfl, Request.asked?, if_pos posted, inBody, Option.bind_some,
              asked]
            exact .command .written

theorem counts_route (interface : Interface) (status : Option Mqtt.Status) (request : Request)
    (plant : Plant) :
    ∃ events, Counts (preset? request (route interface status request plant).1) events ∧
      (route interface status request plant).2.counters = plant.counters.recordAll events := by
  unfold route
  split
  · exact ⟨[], .nothing, rfl⟩
  · rename_i endpoint named
    split
    · rename_i answered
      by_cases ingests : endpoint = .ingest
      · subst ingests
        have posts : request.method = "POST" := by
          simpa [Endpoint.methods] using answered
        exact counts_answerIngest ⟨named, posts⟩ interface plant
      · rw [preset?_of_isRead (isRead_of_methods ingests answered)]
        obtain ⟨events, rfl | rfl, counted⟩ :=
          counts_of_shown ingests interface status request plant
        · exact ⟨[], .nothing, counted⟩
        · exact ⟨[.restRead], .read, counted⟩
    · exact ⟨[], .nothing, rfl⟩

/-- A request is counted, and besides it what has come of it. -/
theorem counts_handle (interface : Interface) (status : Option Mqtt.Status) (request : Request)
    (plant : Plant) :
    ∃ events, Counts (preset? request (handle interface status request plant).1) events ∧
      (handle interface status request plant).2.counters =
        plant.counters.recordAll (.restRequest :: events) := by
  cases through : isLetThrough interface request with
  | false =>
      rw [handle_of_turnedAway through, preset?_finishing]
      exact ⟨[.restUnauthorized], .unauthorised, rfl⟩
  | true =>
      rw [handle_of_letThrough through, preset?_finishing]
      exact counts_route interface status request (plant.record .restRequest)

end Rest

/-! ## Messages from the broker -/

namespace Mqtt

/-- The write that a message makes in a registry, if its command is carried out. -/
def preset? (payload : List UInt8) (registry : Registry) : Option (String × AreaWrite) :=
  (Ingest.Command.ofBytes? payload).bind fun command =>
    (Operation.command command).made? ((Operation.command command).perform registry).1

/-- What is counted for a message besides itself, going by the write that it has made. -/
inductive Counts : Option (String × AreaWrite) → List CountedEvent → Prop where
  | unreadable : Counts none [.mqttRejected]
  | command {made : Option (String × AreaWrite)} {events : List CountedEvent}
      (batch : Ingest.Counts [] [.mqttRejected] made events) : Counts made events

/-- A message is counted, and besides it what has come of it. -/
theorem counts_receive (payload : List UInt8) (plant : Plant) :
    ∃ events, Counts (preset? payload plant.registry) events ∧
      (receive payload plant).counters = plant.counters.recordAll (.mqttMessage :: events) := by
  unfold receive preset?
  cases readable : Ingest.Command.ofBytes? payload with
  | none => exact ⟨[.mqttRejected], .unreadable, rfl⟩
  | some command =>
      have ingested := (plant.record .mqttMessage).ingested [] [.mqttRejected] command
      simp only [Option.bind_some]
      generalize (plant.record .mqttMessage).ingest [] [.mqttRejected] command = result
        at ingested ⊢
      cases ingested with
      | refused failed =>
          rw [Plant.registry_record] at failed
          refine ⟨_, ?_, rfl⟩
          simp only [Operation.perform, failed, Operation.made?, Answer.isSuccess]
          exact .command .refused
      | written asked ingested =>
          rw [Plant.registry_record] at ingested
          refine ⟨_, ?_, rfl⟩
          simp only [Operation.perform, ingested, Operation.made?, Answer.isSuccess,
            Operation.asked?, asked]
          exact .command .written

end Mqtt

/-! ## Modbus requests -/

/-- A Modbus request is counted, and besides it an exception. -/
theorem Modbus.counts_respond (resolver : Resolver) (header : Header) (body : List UInt8)
    (plant : Plant) :
    (respond resolver header body plant).2.counters =
      plant.counters.recordAll (.modbusRequest ::
        if isException (answer resolver header.unitId body plant.registry).1 then
          [.modbusException]
        else []) := by
  cases exceptional : isException (answer resolver header.unitId body plant.registry).1 with
  | true =>
      simp only [respond, exceptional, if_true]
      rfl
  | false =>
      simp only [respond, exceptional, Bool.false_eq_true, if_false]
      rfl

end RegisterGateway
