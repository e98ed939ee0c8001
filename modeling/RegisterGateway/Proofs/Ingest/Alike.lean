import RegisterGateway.Proofs.Ingest.Verdict
import RegisterGateway.Proofs.Rest.Presetting
import RegisterGateway.Proofs.Telemetry.Totals

/-!
# Commands at two entrances

A command comes by a request over HTTP or by a message from the broker, and each entrance checks,
answers and counts in its own way. A command that is not for an area of the operator comes to the
same at both of them. A session with the broker takes its messages one by one, and the memories are
left as the accepted commands leave them.
-/

namespace RegisterGateway

/-! ## Settled commands -/

/-- Whether a counter counts batches and their values. -/
def Counter.OfBatches (counter : Counter) : Prop :=
  counter = .ingestBatches ∨ counter = .ingestWritten ∨ counter = .ingestRejected

/-- The counters of batches have gone on by what an event adds to them. -/
def Counters.Counted (before : Counters) (event : CountedEvent) (after : Counters) : Prop :=
  ∀ counter : Counter, counter.OfBatches →
    after.value counter = before.value counter + UInt64.ofNat (event.amount counter)

/-- Whether an event is no batch. -/
def CountedEvent.isOther : CountedEvent → Bool
  | .batchWritten _ | .batchRejected => false
  | _ => true

theorem CountedEvent.amount_of_isOther {event : CountedEvent} (other : event.isOther = true)
    {counter : Counter} (ofBatches : counter.OfBatches) : event.amount counter = 0 := by
  rcases ofBatches with rfl | rfl | rfl <;> cases event <;> first | rfl | contradiction

/-- Events that are no batches add nothing to the counters of batches. -/
theorem total_of_others {events : List CountedEvent}
    (others : events.all CountedEvent.isOther = true) {counter : Counter}
    (ofBatches : counter.OfBatches) : total events counter = 0 := by
  refine List.sum_eq_zero fun amount member => ?_
  obtain ⟨other, present, rfl⟩ := List.mem_map.1 member
  exact CountedEvent.amount_of_isOther (List.all_eq_true.1 others other present) ofBatches

theorem Counters.value_recordAll_of_others (before : Counters) {events : List CountedEvent}
    (others : events.all CountedEvent.isOther = true) {counter : Counter}
    (ofBatches : counter.OfBatches) :
    (before.recordAll events).value counter = before.value counter := by
  rw [value_recordAll, total_of_others others ofBatches]
  exact UInt64.add_zero _

/-- What is counted before and after a batch makes no difference to the counters of batches. -/
theorem Counters.counted_recordAll (before : Counters) {first : CountedEvent}
    {later : List CountedEvent} (event : CountedEvent)
    (others : (first :: later).all CountedEvent.isOther = true) :
    before.Counted event (before.recordAll (first :: event :: later)) := by
  intro counter ofBatches
  obtain ⟨firstOther, laterOthers⟩ : first.isOther = true ∧ later.all CountedEvent.isOther = true :=
    Bool.and_eq_true_iff.1 others
  rw [value_recordAll, total_cons, total_cons, total_of_others laterOthers ofBatches,
    CountedEvent.amount_of_isOther firstOther ofBatches, Nat.zero_add, Nat.add_zero]

namespace Ingest

/-- What an entrance has made of a command, and whether it has accepted it. -/
inductive Settled (command : Command) (before after : Plant) : Prop → Prop where
  | accepted {isAccepted : Prop} (holds : isAccepted)
      (carriedOut : command.ingest before.registry = .ok (command.length, after.registry))
      (counted : before.counters.Counted (.batchWritten command.length) after.counters) :
      Settled command before after isAccepted
  | refused {isAccepted : Prop} {error : IngestError} (fails : ¬ isAccepted)
      (failed : command.ingest before.registry = .error error)
      (unchanged : after.registry = before.registry)
      (counted : before.counters.Counted .batchRejected after.counters) :
      Settled command before after isAccepted

variable {command : Command} {registry : Registry}

theorem length_of_ok {written : Nat} {after : Registry}
    (carriedOut : command.ingest registry = .ok (written, after)) : written = command.length := by
  have verdict := verdict_ingest command registry
  rw [carriedOut] at verdict
  cases verdict
  rfl

theorem known_of_ok {result : Nat × Registry}
    (carriedOut : command.ingest registry = .ok result) :
    registry.find? command.memory ≠ none := by
  have verdict := verdict_ingest command registry
  rw [carriedOut] at verdict
  cases verdict with
  | carriedOut _ present =>
      rw [present]
      exact Option.some_ne_none _

/-- Whether the area of a command belongs to the operator, as it is spelled in the command. -/
def Command.IsForOperator (command : Command) : Prop :=
  Text.trim command.area = "coils" ∨ Text.trim command.area = "holding_registers"

theorem isForOperator_iff :
    command.IsForOperator ↔ (areaOf? command.area).any Area.isOperator = true := by
  constructor
  · rintro (spelled | spelled)
    · rw [areaOf?, spelled]
      decide
    · rw [areaOf?, spelled]
      decide
  · intro operator
    obtain ⟨area, named, isOperator⟩ := (Option.any_eq_true _ _).1 operator
    rw [areaOf?, Area.ofName?_eq_some_iff] at named
    cases area with
    | coils => exact .inl named.symm
    | holdingRegisters => exact .inr named.symm
    | discreteInputs | inputRegisters => contradiction

/-- An entrance settles a command by carrying it out, if it accepts what is carried out and counts
nothing else as a batch. -/
theorem settled_ingest {before : Plant} {arrival : CountedEvent}
    {accepted refused : List CountedEvent} {isAccepted : Prop}
    (othersAccepted : (arrival :: accepted).all CountedEvent.isOther = true)
    (othersRefused : (arrival :: refused).all CountedEvent.isOther = true)
    (decides : isAccepted ↔ (command.ingest before.registry).isOk) :
    Settled command before ((before.record arrival).ingest accepted refused command).2
      isAccepted := by
  unfold Plant.ingest
  rw [Plant.registry_record]
  cases ingested : command.ingest before.registry with
  | error error =>
      rw [ingested] at decides
      exact .refused (decides.not.2 nofun) ingested rfl
        (before.counters.counted_recordAll .batchRejected othersRefused)
  | ok result =>
      obtain ⟨written, registry⟩ := result
      obtain rfl := length_of_ok ingested
      rw [ingested] at decides
      exact .accepted (decides.2 rfl) ingested
        (before.counters.counted_recordAll (.batchWritten command.length) othersAccepted)

end Ingest

/-- Carries out some commands one after the other, up to one that is refused. -/
def Registry.carryOut (registry : Registry) (commands : List Ingest.Command) :
    Except Ingest.IngestError Registry :=
  commands.foldlM (fun registry command => (command.ingest registry).map Prod.snd) registry

theorem Registry.carryOut_cons {registry after : Registry} {command : Ingest.Command}
    {written : Nat} (carriedOut : command.ingest registry = .ok (written, after))
    (rest : List Ingest.Command) :
    registry.carryOut (command :: rest) = after.carryOut rest := by
  rw [carryOut, List.foldlM_cons, carriedOut]
  rfl

/-! ## Requests over HTTP -/

namespace Rest

/-- A request posts a command to the ingest endpoint of an interface that lets it through and has
ingest switched on. -/
structure Request.Posts (request : Request) (interface : Interface) (command : Ingest.Command) :
    Prop where
  posted : request.IsPosted
  authorised : interface.Authorises request
  enabled : interface.ingestEnabled = true
  carried : commandOf? request = some command

variable {interface : Interface} {request : Request} {command : Ingest.Command}

/-- A command that is posted is answered by the ingest endpoint. -/
theorem handle_of_posts (posts : request.Posts interface command) (status : Option Mqtt.Status)
    (plant : Plant) :
    (handle interface status request plant).1.status =
        (answerIngest interface request (plant.record .restRequest)).1.status ∧
      (handle interface status request plant).2 =
        (answerIngest interface request (plant.record .restRequest)).2 := by
  have named : request.target.path = Endpoint.ingest.path := posts.posted.2
  have answered : Endpoint.ingest.methods.contains request.method = true := by
    rw [posts.posted.1]
    decide
  rw [handle_of_letThrough (isLetThrough_iff.2 (.inr posts.authorised)), status_finishing,
    route_of_endpoint named answered]
  exact ⟨rfl, rfl⟩

/-- A command for an area of the operator is turned down before anything looks at the memories. -/
theorem answerIngest_of_operator (posts : request.Posts interface command)
    (operator : command.IsForOperator) (plant : Plant) :
    answerIngest interface request plant =
      (forbidden "area is not writable via ingest", plant.record .restRejected) := by
  simp only [answerIngest, posts.enabled, posts.carried, Ingest.isForOperator_iff.1 operator,
    Bool.not_true, Bool.false_eq_true, if_false, if_true]

/-- Any other command is carried out by way of the memories. -/
theorem answerIngest_of_other (posts : request.Posts interface command)
    (other : ¬ command.IsForOperator) (plant : Plant) :
    (answerIngest interface request plant).2 =
        (plant.ingest [.restIngest] [.restRejected] command).2 ∧
      (answerIngest interface request plant).1.status =
        match command.ingest plant.registry with
        | .ok _ => 200
        | .error error => (ingestRefused error).status := by
  have notOperator := Bool.eq_false_iff.2 (mt Ingest.isForOperator_iff.2 other)
  simp only [answerIngest, posts.enabled, posts.carried, notOperator, Bool.not_true,
    Bool.false_eq_true, if_false, Plant.ingest]
  cases command.ingest plant.registry with
  | ok result => exact ⟨rfl, rfl⟩
  | error error => exact ⟨rfl, rfl⟩

/-- The status of a refusal tells whether the memory is known. A command that is not for an area of
the operator is not denied. -/
theorem status_ingestRefused {registry : Registry} {error : Ingest.IngestError}
    (refused : command.ingest registry = .error error) (other : ¬ command.IsForOperator) :
    (ingestRefused error).status = if registry.find? command.memory = none then 404 else 400 := by
  have verdict := Ingest.verdict_ingest command registry
  rw [refused] at verdict
  cases verdict with
  | refused objection first =>
      by_cases missing : registry.find? command.memory = none
      · -- An unknown memory is objected to before anything else.
        have place := first _ (.unknownMemory missing)
        cases objection with
        | unknownMemory => rw [if_pos missing]; rfl
        | _ => simp [Ingest.IngestError.place] at place
      · rw [if_neg missing]
        cases objection with
        | unknownMemory isMissing => contradiction
        | denied named operator =>
            refine absurd ?_ other
            rcases operator with rfl | rfl
            · exact .inl named.symm
            · exact .inr named.symm
        | _ => rfl

theorem settled_handle (posts : request.Posts interface command) (other : ¬ command.IsForOperator)
    (status : Option Mqtt.Status) (plant : Plant) :
    Ingest.Settled command plant (handle interface status request plant).2
      ((handle interface status request plant).1.status = 200) := by
  obtain ⟨sameStatus, samePlant⟩ := handle_of_posts posts status plant
  obtain ⟨left, answered⟩ := answerIngest_of_other posts other (plant.record .restRequest)
  rw [samePlant, sameStatus, left, answered]
  refine Ingest.settled_ingest rfl rfl ?_
  rw [Plant.registry_record]
  cases command.ingest plant.registry with
  | ok result => exact iff_of_true rfl rfl
  | error error => exact iff_of_false (status_ingestRefused_ne error) nofun

/-- The status of the response to a command that is not for an area of the operator. -/
theorem status_handle_of_other (posts : request.Posts interface command)
    (other : ¬ command.IsForOperator) (status : Option Mqtt.Status) (plant : Plant)
    (failed : (handle interface status request plant).1.status ≠ 200) :
    (handle interface status request plant).1.status =
      if plant.registry.find? command.memory = none then 404 else 400 := by
  rw [(handle_of_posts posts status plant).1,
    (answerIngest_of_other posts other (plant.record .restRequest)).2, Plant.registry_record]
    at failed ⊢
  cases ingested : command.ingest plant.registry with
  | ok result =>
      rw [ingested] at failed
      contradiction
  | error error => exact status_ingestRefused ingested other

/-- A command for an area of the operator is turned down, and no batch is counted. -/
theorem turnedDown_handle (posts : request.Posts interface command)
    (operator : command.IsForOperator) (status : Option Mqtt.Status) (plant : Plant) :
    (handle interface status request plant).1.status = 403 ∧
      (handle interface status request plant).2.registry = plant.registry ∧
      ∀ counter : Counter, counter.OfBatches →
        (handle interface status request plant).2.counters.value counter =
          plant.counters.value counter := by
  obtain ⟨sameStatus, samePlant⟩ := handle_of_posts posts status plant
  rw [sameStatus, samePlant, answerIngest_of_operator posts operator]
  refine ⟨rfl, rfl, fun counter ofBatches => ?_⟩
  have others : [CountedEvent.restRequest, .restRejected].all CountedEvent.isOther = true := rfl
  exact plant.counters.value_recordAll_of_others others ofBatches

end Rest

/-! ## Messages from the broker -/

namespace Mqtt

/-- A message is accepted if it is not counted as rejected. -/
def Accepts (payload : List UInt8) (plant : Plant) : Prop :=
  (receive payload plant).counters.mqttRejected = plant.counters.mqttRejected

instance (payload : List UInt8) (plant : Plant) : Decidable (Accepts payload plant) :=
  inferInstanceAs (Decidable (_ = _))

variable {payload : List UInt8} {command : Ingest.Command} {plant : Plant}

theorem receive_of_readable (readable : Ingest.Command.ofBytes? payload = some command) :
    receive payload plant =
      ((plant.record .mqttMessage).ingest [] [.mqttRejected] command).2 := by
  simp only [receive, readable]

theorem receive_of_unreadable (unreadable : Ingest.Command.ofBytes? payload = none) :
    receive payload plant = (plant.record .mqttMessage).record .mqttRejected := by
  simp only [receive, unreadable]

/-- No counter of 64 bits stays as it is when it goes on by one. -/
theorem add_one_ne (count : UInt64) : count + 1 ≠ count := by
  simp

theorem accepts_iff_of_readable (readable : Ingest.Command.ofBytes? payload = some command) :
    Accepts payload plant ↔ (command.ingest plant.registry).isOk := by
  rw [Accepts, receive_of_readable readable, Plant.ingest, Plant.registry_record]
  cases command.ingest plant.registry with
  | ok result => exact iff_of_true rfl rfl
  | error error => exact iff_of_false (add_one_ne _) Bool.false_ne_true

theorem not_accepts_of_unreadable (unreadable : Ingest.Command.ofBytes? payload = none) :
    ¬ Accepts payload plant := by
  rw [Accepts, receive_of_unreadable unreadable]
  exact add_one_ne _

theorem settled_receive (readable : Ingest.Command.ofBytes? payload = some command)
    (plant : Plant) :
    Ingest.Settled command plant (receive payload plant) (Accepts payload plant) := by
  rw [receive_of_readable readable]
  exact Ingest.settled_ingest rfl rfl (accepts_iff_of_readable readable)

/-! ## Sequences of messages -/

/-- The plant after some messages. -/
def receiveAll (payloads : List (List UInt8)) (plant : Plant) : Plant :=
  payloads.foldl (fun plant payload => receive payload plant) plant

/-- The commands in those of some messages that are accepted as they come in turn. -/
def accepted : List (List UInt8) → Plant → List Ingest.Command
  | [], _ => []
  | payload :: rest, plant =>
      (if Accepts payload plant then (Ingest.Command.ofBytes? payload).toList else []) ++
        accepted rest (receive payload plant)

/-- A message that is not accepted leaves the memories alone. -/
theorem registry_receive_of_not_accepts (refused : ¬ Accepts payload plant) :
    (receive payload plant).registry = plant.registry := by
  cases readable : Ingest.Command.ofBytes? payload with
  | none =>
      rw [receive_of_unreadable readable]
      rfl
  | some command =>
      cases settled_receive readable plant with
      | accepted holds => contradiction
      | refused _ _ unchanged => exact unchanged

/-- The accepted commands lead from the memories before some messages to those after them. -/
theorem carryOut_accepted (payloads : List (List UInt8)) (plant : Plant) :
    plant.registry.carryOut (accepted payloads plant) =
      .ok (receiveAll payloads plant).registry := by
  induction payloads generalizing plant with
  | nil => rfl
  | cons payload rest ih =>
      have later := ih (receive payload plant)
      rw [accepted]
      by_cases accepts : Accepts payload plant
      · cases readable : Ingest.Command.ofBytes? payload with
        | none => exact absurd accepts (not_accepts_of_unreadable readable)
        | some command =>
            rw [if_pos accepts]
            cases settled_receive readable plant with
            | refused fails => contradiction
            | accepted _ carriedOut =>
                rw [Option.toList_some, List.singleton_append, Registry.carryOut_cons carriedOut,
                  later]
                rfl
      · rw [registry_receive_of_not_accepts accepts] at later
        rw [if_neg accepts, List.nil_append, later]
        rfl

/-- A session that runs takes every message, and goes on as it is. -/
theorem Session.step_messages {session : Session} (runs : session.running = true)
    (payloads : List (List UInt8)) (plant : Plant) :
    (payloads.map Event.message).foldl (fun state event => state.1.step state.2 event)
      (session, plant) = (session, receiveAll payloads plant) := by
  induction payloads generalizing plant with
  | nil => rfl
  | cons payload rest ih =>
      have stepped : session.step plant (.message payload) = (session, receive payload plant) := by
        simp only [Session.step, runs, if_true]
      rw [List.map_cons, List.foldl_cons, stepped, ih]
      rfl

end Mqtt

/-! ## Both entrances -/

/-- What holds of a command that is posted to an interface and of the same command in a message,
given the counters at the two entrances and what each of them has come to. -/
structure Ingest.Command.Alike (command : Command) (registry : Registry)
    (webCounters brokerCounters : Counters) (response : Rest.Response) (web broker : Plant)
    (accepts : Prop) : Prop where
  succeeds : response.status = 200 ↔ accepts
  sameMemories : web.registry = broker.registry
  written : accepts →
    webCounters.Counted (.batchWritten command.length) web.counters ∧
      brokerCounters.Counted (.batchWritten command.length) broker.counters
  rejected : ¬ accepts →
    webCounters.Counted .batchRejected web.counters ∧
      brokerCounters.Counted .batchRejected broker.counters
  unknown : response.status = 404 ↔ registry.find? command.memory = none
  otherwise : ¬ accepts → registry.find? command.memory ≠ none → response.status = 400

theorem Ingest.Command.alike {request : Rest.Request} {interface : Rest.Interface}
    {command : Command} {payload : List UInt8} (posts : request.Posts interface command)
    (readable : ofBytes? payload = some command) (other : ¬ command.IsForOperator)
    (status : Option Mqtt.Status) (registry : Registry) (webCounters brokerCounters : Counters) :
    command.Alike registry webCounters brokerCounters
      (Rest.handle interface status request ⟨registry, webCounters⟩).1
      (Rest.handle interface status request ⟨registry, webCounters⟩).2
      (Mqtt.receive payload ⟨registry, brokerCounters⟩)
      (Mqtt.Accepts payload ⟨registry, brokerCounters⟩) := by
  have broker := Mqtt.settled_receive readable ⟨registry, brokerCounters⟩
  have web := Rest.settled_handle posts other status ⟨registry, webCounters⟩
  have refusal := Rest.status_handle_of_other posts other status ⟨registry, webCounters⟩
  generalize Mqtt.Accepts payload ⟨registry, brokerCounters⟩ = accepts at broker ⊢
  generalize Mqtt.receive payload ⟨registry, brokerCounters⟩ = brokerAfter at broker ⊢
  generalize Rest.handle interface status request ⟨registry, webCounters⟩ = handled
    at web refusal ⊢
  cases web with
  | accepted succeeds webCarriedOut webCounted =>
      cases broker with
      | refused _ failed => exact absurd (webCarriedOut.symm.trans failed) nofun
      | accepted accepts brokerCarriedOut brokerCounted =>
          have sameResult := webCarriedOut.symm.trans brokerCarriedOut
          refine ⟨iff_of_true succeeds accepts, ?_, fun _ => ⟨webCounted, brokerCounted⟩,
            fun refused => absurd accepts refused, ?_, fun refused => absurd accepts refused⟩
          · exact (Prod.mk.inj (Except.ok.inj sameResult)).2
          · rw [succeeds]
            exact iff_of_false (by decide) (Ingest.known_of_ok webCarriedOut)
  | refused fails webFailed webUnchanged webCounted =>
      cases broker with
      | accepted _ carriedOut => exact absurd (webFailed.symm.trans carriedOut) nofun
      | refused refused brokerFailed brokerUnchanged brokerCounted =>
          refine ⟨iff_of_false fails refused, webUnchanged.trans brokerUnchanged.symm,
            fun accepts => absurd accepts refused, fun _ => ⟨webCounted, brokerCounted⟩, ?_, ?_⟩
          · rw [refusal fails]
            split <;> simp_all
          · intro _ known
            rw [refusal fails, if_neg known]

/-- Whatever a registry holds and whatever has been counted, a command comes to the same by a
request over HTTP and by a message, unless it is for an area of the operator, which is closed over
HTTP. A session takes any sequence of messages, and the memories are left as the accepted commands
leave them. -/
theorem entrances_treat_alike :
    (∀ {request : Rest.Request} {interface : Rest.Interface} {command : Ingest.Command}
        {payload : List UInt8}, request.Posts interface command →
      Ingest.Command.ofBytes? payload = some command →
      ∀ (status : Option Mqtt.Status) (registry : Registry) (webCounters brokerCounters : Counters),
        (¬ command.IsForOperator →
          command.Alike registry webCounters brokerCounters
            (Rest.handle interface status request ⟨registry, webCounters⟩).1
            (Rest.handle interface status request ⟨registry, webCounters⟩).2
            (Mqtt.receive payload ⟨registry, brokerCounters⟩)
            (Mqtt.Accepts payload ⟨registry, brokerCounters⟩)) ∧
        (command.IsForOperator →
          (Rest.handle interface status request ⟨registry, webCounters⟩).1.status = 403 ∧
            (Rest.handle interface status request ⟨registry, webCounters⟩).2.registry = registry ∧
            ∀ counter : Counter, counter.OfBatches →
              (Rest.handle interface status request
                ⟨registry, webCounters⟩).2.counters.value counter = webCounters.value counter)) ∧
      ∀ (payloads : List (List UInt8)) (plant : Plant),
        (∀ session : Mqtt.Session, session.running = true →
          (payloads.map Mqtt.Event.message).foldl (fun state event => state.1.step state.2 event)
            (session, plant) = (session, Mqtt.receiveAll payloads plant)) ∧
        plant.registry.carryOut (Mqtt.accepted payloads plant) =
          .ok (Mqtt.receiveAll payloads plant).registry := by
  refine ⟨?_, fun payloads plant => ⟨fun session runs => ?_, ?_⟩⟩
  · intro request interface command payload posts readable status registry web broker
    exact ⟨fun other => Ingest.Command.alike posts readable other status registry web broker,
      fun operator => Rest.turnedDown_handle posts operator status ⟨registry, web⟩⟩
  · exact Mqtt.Session.step_messages runs payloads plant
  · exact Mqtt.carryOut_accepted payloads plant

/-- A message that sets the second of two cells of an area. -/
def secondSetMessage (area : String) : List UInt8 :=
  Json.bytesOf ("[\"1\",\"" ++ area ++ "\",0,[0,1]]")

theorem posts_secondSet {area : String} {command : Ingest.Command}
    (carried : Rest.commandOf? (secondSet area "open") = some command) :
    (secondSet area "open").Posts { tokens := .make true ["open"] } command where
  posted := ⟨rfl, rfl⟩
  authorised := by
    have presented : Rest.bearerToken? (secondSet "" "open") = some "open" := by decide +kernel
    exact .inr ⟨"open", presented, by decide +kernel, by decide +kernel⟩
  enabled := rfl
  carried := carried

/-- Two discrete inputs are set over HTTP as they are by a message, and two coils are not. Of three
messages one is no command, and the other two are carried out. -/
theorem inputs_set_alike :
    (Rest.handle { tokens := .make true ["open"] } none (secondSet " discrete_inputs " "open")
        guardedInputs.plant).2.registry =
      (Mqtt.receive (secondSetMessage " discrete_inputs ") guardedInputs.plant).registry ∧
    (Rest.handle { tokens := .make true ["open"] } none (secondSet " coils" "open")
        guardedInputs.plant).1.status = 403 ∧
    Mqtt.accepted [secondSetMessage " discrete_inputs ", [], secondSetMessage " coils"]
        guardedInputs.plant =
      [⟨"1", " discrete_inputs ", 0, [0, 1], []⟩, ⟨"1", " coils", 0, [0, 1], []⟩] ∧
    guardedInputs.plant.registry.carryOut
        [⟨"1", " discrete_inputs ", 0, [0, 1], []⟩, ⟨"1", " coils", 0, [0, 1], []⟩] =
      .ok (Mqtt.receiveAll [secondSetMessage " discrete_inputs ", [], secondSetMessage " coils"]
        guardedInputs.plant).registry := by
  obtain ⟨alike, sequences⟩ := entrances_treat_alike
  have inputs : Ingest.Command.ofBytes? (secondSetMessage " discrete_inputs ") =
      some ⟨"1", " discrete_inputs ", 0, [0, 1], []⟩ := by
    cbv
  have coils : Ingest.Command.ofBytes? (secondSetMessage " coils") =
      some ⟨"1", " coils", 0, [0, 1], []⟩ := by
    cbv
  have coilsInBody : Rest.commandOf? (secondSet " coils" "open") =
      some ⟨"1", " coils", 0, [0, 1], []⟩ := by
    cbv
  have taken : Mqtt.accepted [secondSetMessage " discrete_inputs ", [], secondSetMessage " coils"]
      guardedInputs.plant =
        [⟨"1", " discrete_inputs ", 0, [0, 1], []⟩, ⟨"1", " coils", 0, [0, 1], []⟩] := by
    decide +kernel
  refine ⟨?_, ?_, taken, ?_⟩
  · exact ((alike (posts_secondSet commandOf?_secondSet) inputs none
      guardedInputs.plant.registry {} {}).1
        (by unfold Ingest.Command.IsForOperator; decide)).sameMemories
  · exact ((alike (posts_secondSet coilsInBody) coils none guardedInputs.plant.registry {} {}).2
      (.inl (by decide))).1
  · rw [← taken]
    exact (sequences _ guardedInputs.plant).2

end RegisterGateway
