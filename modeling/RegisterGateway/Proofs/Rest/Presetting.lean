import RegisterGateway.Gateway.Running
import RegisterGateway.Proofs.Rest.Handling
import RegisterGateway.Proofs.Sequence
import RegisterGateway.Proofs.Text.Trimming

/-!
# HTTP requests preset inputs

Over HTTP the discrete inputs and the input registers can be preset, and nothing else can be
changed: the areas of the operator stay as they are in every memory. A request changes the memories
only if it has been let through, finds ingest switched on, and is answered that it has succeeded. A
request that is not let through is counted, and nothing comes of it.
-/

namespace RegisterGateway

/-! ## Areas as they are spelled -/

/-- The text of an area is its name with blanks around it. -/
theorem Ingest.areaOf?_eq_some_iff {text : String} {area : Area} :
    areaOf? text = some area ↔
      ∃ front back : String, Text.isAllBlank front ∧ Text.isAllBlank back ∧
        text = front ++ area.name ++ back := by
  rw [areaOf?, Area.ofName?_eq_some_iff, eq_comm]
  have solid : area.name.toList.any Text.isBlank = false := by
    cases area <;> decide
  have inked : ∀ character ∈ area.name.toList, Text.isBlank character = false := fun _ member =>
    Bool.eq_false_iff.2 (List.any_eq_false.1 solid _ member)
  refine Text.trim_eq_iff ?_ (fun character first => ?_) (fun character last => ?_)
  · cases area <;> decide
  · exact inked character (List.mem_of_mem_head? first)
  · exact inked character (List.mem_of_mem_getLast? last)

/-! ## Tokens -/

/-- Whether a request presents what an interface asks for: no token is asked for, or it presents a
known one, blanks around it aside. -/
def Rest.Interface.Authorises (interface : Interface) (request : Request) : Prop :=
  interface.tokens.enabled = false ∨
    ∃ token, bearerToken? request = some token ∧ Text.isAllBlank token = false ∧
      Text.trim token ∈ interface.tokens.tokens

theorem Access.TokenSet.isOk_verify_iff (set : TokenSet) (presented : Option String) :
    (set.verify presented).isOk ↔
      set.enabled = false ∨
        ∃ token, presented = some token ∧ Text.isAllBlank token = false ∧
          Text.trim token ∈ set.tokens := by
  unfold verify
  cases enabled : set.enabled with
  | false => simp [Except.isOk, Except.toBool]
  | true =>
      cases presented with
      | none => simp [Except.isOk, Except.toBool]
      | some token =>
          by_cases blank : Text.isAllBlank token = true
          · simp [blank, Except.isOk, Except.toBool]
          · by_cases known : Text.trim token ∈ set.tokens
            · simp [blank, known, Except.isOk, Except.toBool]
            · simp [blank, known, Except.isOk, Except.toBool]

namespace Rest

section Requests

variable {interface : Interface} {status : Option Mqtt.Status} {request : Request} {plant : Plant}

theorem isLetThrough_iff :
    isLetThrough interface request ↔
      request.target.path = "/api/v1/health" ∨ interface.Authorises request := by
  rw [isLetThrough, Bool.or_eq_true, decide_eq_true_eq, Access.TokenSet.isOk_verify_iff]
  rfl

/-! ## Requests that are not let through -/

/-- A request that is not let through is counted twice, and nothing else comes of it. -/
theorem handle_of_unauthorised (other : request.target.path ≠ "/api/v1/health")
    (refused : ¬ interface.Authorises request) :
    (handle interface status request plant).1.status = 401 ∧
      (handle interface status request plant).2 =
        ⟨plant.registry,
          { plant.counters with
            restRequests := plant.counters.restRequests + 1
            restUnauthorized := plant.counters.restUnauthorized + 1 }⟩ := by
  have turnedAway : isLetThrough interface request = false := by
    refine Bool.eq_false_iff.2 fun through => ?_
    exact (isLetThrough_iff.1 through).elim other refused
  rw [handle_of_turnedAway turnedAway]
  exact ⟨status_finishing request unauthorized, rfl⟩

/-! ## Requests that change the memories -/

/-- Whether a request is posted to the ingest endpoint. -/
def Request.IsPosted (request : Request) : Prop :=
  request.method = "POST" ∧ request.target.path = "/api/v1/ingest"

instance (request : Request) : Decidable request.IsPosted :=
  inferInstanceAs (Decidable (_ ∧ _))

theorem ofPath?_eq_ingest_iff {path : String} :
    Endpoint.ofPath? path = some .ingest ↔ path = "/api/v1/ingest" := by
  constructor
  · intro named
    have found := List.find?_some named
    exact (of_decide_eq_true found).symm
  · rintro rfl
    exact Endpoint.ofPath?_path .ingest

/-- What a command writes: its values, to the inputs of its memory. -/
structure Asks (command : Ingest.Command) (area : Area) (values : List area.Cell) : Prop where
  spelled : Ingest.areaOf? command.area = some area
  input : area = .discreteInputs ∨ area = .inputRegisters
  carried : command.cellsFor area = .ok values

/-- A request has been let through and carried out: it is posted to the ingest endpoint, and the
write of its command has been made to the inputs of one memory. -/
structure Presets (interface : Interface) (request : Request) (response : Response)
    (before after : Registry) : Prop where
  posted : request.IsPosted
  succeeded : response.status = 200
  authorised : interface.Authorises request
  enabled : interface.ingestEnabled = true
  wrote : ∃ command area values, commandOf? request = some command ∧ Asks command area values ∧
    before.Wrote command.memory ⟨area, command.address, values⟩ after

/-- What a successful post has come to: it has passed every check in front of the memories. -/
theorem accepted_of_status (posted : request.IsPosted)
    (succeeded : (handle interface status request plant).1.status = 200) :
    interface.Authorises request ∧ interface.ingestEnabled = true ∧
      ∃ command, commandOf? request = some command ∧
        (Ingest.areaOf? command.area).any Area.isOperator = false := by
  obtain ⟨posts, toIngest⟩ := posted
  have other : request.target.path ≠ "/api/v1/health" := by
    rw [toIngest]
    decide
  have named : request.target.path = Endpoint.ingest.path := toIngest
  have authorised : interface.Authorises request := by
    by_cases authorised : interface.Authorises request
    · exact authorised
    · rw [(handle_of_unauthorised other authorised).1] at succeeded
      contradiction
  have answered : Endpoint.ingest.methods.contains request.method = true := by
    rw [posts]
    decide
  rw [handle_of_letThrough (isLetThrough_iff.2 (.inr authorised)), status_finishing,
    route_of_endpoint named answered] at succeeded
  simp only [Endpoint.answer, answerIngest] at succeeded
  split at succeeded
  · exact absurd succeeded (show 403 ≠ 200 by decide)
  · rename_i enabled
    split at succeeded
    · exact absurd succeeded (show 400 ≠ 200 by decide)
    · rename_i command inBody
      split at succeeded
      · exact absurd succeeded (show 403 ≠ 200 by decide)
      · rename_i input
        exact ⟨authorised, by simpa using enabled, command, inBody, Bool.eq_false_iff.2 input⟩

/-- A request that is posted and answered that it has succeeded has preset inputs. -/
theorem presets_of_status (posted : request.IsPosted)
    (succeeded : (handle interface status request plant).1.status = 200) :
    Presets interface request (handle interface status request plant).1 plant.registry
      (handle interface status request plant).2.registry := by
  obtain ⟨authorised, enabled, command, inBody, input⟩ := accepted_of_status posted succeeded
  refine ⟨posted, succeeded, authorised, enabled, ?_⟩
  have outcome := outcome_handle interface status request plant
  generalize handle interface status request plant = handled at outcome succeeded
  obtain ⟨response, ⟨after, counters⟩⟩ := handled
  cases outcome with
  | refused failed => contradiction
  | shown _ reads =>
      rw [isRead_eq_false_of_post posted.1] at reads
      contradiction
  | @written _ key write _ _ asked wrote =>
      rw [Request.asked?, if_pos ⟨ofPath?_eq_ingest_iff.2 posted.2, posted.1⟩, inBody,
        Option.bind_some, Ingest.Command.asked?] at asked
      split at asked
      · contradiction
      · rename_i area spelled
        split at asked
        · rename_i values carried
          cases asked
          rw [spelled] at input
          have inputs : area = .discreteInputs ∨ area = .inputRegisters := by
            cases area <;> simp_all [Area.isOperator]
          exact ⟨command, area, values, inBody, ⟨spelled, inputs, carried⟩, wrote⟩
        · contradiction

/-- Every other request leaves the memories alone. -/
theorem registry_handle_of_not_posted
    (unposted : ¬ (request.IsPosted ∧ (handle interface status request plant).1.status = 200)) :
    (handle interface status request plant).2.registry = plant.registry := by
  have outcome := outcome_handle interface status request plant
  generalize handle interface status request plant = handled at outcome unposted ⊢
  obtain ⟨response, ⟨after, counters⟩⟩ := handled
  cases outcome with
  | refused | shown => rfl
  | written succeeded posts asked wrote =>
      refine absurd ⟨⟨posts, ?_⟩, succeeded⟩ unposted
      unfold Request.asked? at asked
      split at asked
      · rename_i posted
        exact ofPath?_eq_ingest_iff.1 posted.1
      · contradiction

/-- What a request has preset is what it asks for. -/
theorem Presets.follows {response : Response} {before after : Registry}
    (presets : Presets interface request response before after) :
    ∃ key write, request.asked? = some (key, write) ∧ write.area.isOperator = false ∧
      before.Wrote key write after := by
  obtain ⟨command, area, values, inBody, ⟨spelled, input, carried⟩, wrote⟩ := presets.wrote
  refine ⟨command.memory, ⟨area, command.address, values⟩, ?_, ?_, wrote⟩
  · rw [Request.asked?, if_pos ⟨ofPath?_eq_ingest_iff.2 presets.posted.2, presets.posted.1⟩,
      inBody, Option.bind_some, Ingest.Command.asked?, spelled]
    simp only [carried]
  · rcases input with rfl | rfl <;> rfl

/-- A command for an area of the operator is not carried out, however the area is spelled. -/
theorem registry_handle_of_operator {command : Ingest.Command} {area : Area}
    (inBody : commandOf? request = some command)
    (spelled : Ingest.areaOf? command.area = some area) (operator : area.isOperator = true) :
    (handle interface status request plant).2.registry = plant.registry := by
  apply registry_handle_of_not_posted
  rintro ⟨posted, succeeded⟩
  obtain ⟨-, -, other, inBodyToo, input⟩ := accepted_of_status posted succeeded
  rw [inBody] at inBodyToo
  cases inBodyToo
  rw [spelled, Option.any_some, operator] at input
  contradiction

/-- A request that is not posted to the ingest endpoint asks for no write. -/
theorem asked?_eq_none_of_not_posted (unposted : ¬ request.IsPosted) : request.asked? = none := by
  apply if_neg
  rintro ⟨named, posts⟩
  exact unposted ⟨posts, ofPath?_eq_ingest_iff.1 named⟩

/-- The write that a request has made, going by its response. -/
def preset? (request : Request) (response : Response) : Option (String × AreaWrite) :=
  if response.status = 200 then request.asked? else none

/-- A request makes the write that its response tells of, and this goes to inputs. -/
theorem follows_handle (interface : Interface) (status : Option Mqtt.Status) (request : Request)
    (plant : Plant) :
    plant.registry.Follows (preset? request (handle interface status request plant).1).toList
        (handle interface status request plant).2.registry ∧
      ∀ made ∈ preset? request (handle interface status request plant).1,
        made.2.area.isOperator = false := by
  by_cases accepted :
      request.IsPosted ∧ (handle interface status request plant).1.status = 200
  · obtain ⟨posted, succeeded⟩ := accepted
    obtain ⟨key, write, asked, input, wrote⟩ := (presets_of_status posted succeeded).follows
    rw [preset?, if_pos succeeded, asked]
    refine ⟨.ofWrote wrote, fun made member => ?_⟩
    cases member
    exact input
  · have nothing : preset? request (handle interface status request plant).1 = none := by
      unfold preset?
      split
      · rename_i succeeded
        exact asked?_eq_none_of_not_posted fun posted => accepted ⟨posted, succeeded⟩
      · rfl
    rw [registry_handle_of_not_posted accepted, nothing]
    exact ⟨.unchanged plant.registry, nofun⟩

end Requests

end Rest

/-! ## Requests at a gateway -/

namespace Gateway

variable {gateway : Gateway} {request : Rest.Request}

theorem http_of_interface {interface : Rest.Interface}
    (serves : gateway.interface = some interface) (goesOn : gateway.isStopped = false)
    (request : Rest.Request) :
    gateway.http request =
      (some (Rest.handle interface gateway.status request gateway.plant).1,
        { gateway with
          plant := (Rest.handle interface gateway.status request gateway.plant).2 }) := by
  simp only [http, serves, goesOn, Bool.false_eq_true, if_false]

/-- A request is answered by the interface of a gateway that has not stopped, or nothing hears
it. -/
theorem http_cases (gateway : Gateway) (request : Rest.Request) :
    gateway.http request = (none, gateway) ∨
      ∃ interface, gateway.interface = some interface ∧ gateway.http request =
        (some (Rest.handle interface gateway.status request gateway.plant).1,
          { gateway with
            plant := (Rest.handle interface gateway.status request gateway.plant).2 }) := by
  by_cases stopped : gateway.isStopped = true
  · left
    cases serves : gateway.interface <;> simp only [http, serves, stopped, if_true]
  · rcases Option.eq_none_or_eq_some gateway.interface with none | ⟨interface, serves⟩
    · left
      simp only [http, none]
    · exact .inr ⟨interface, serves,
        http_of_interface serves (Bool.eq_false_iff.2 stopped) request⟩

/-- What one request can do to a gateway. -/
structure Confines (gateway : Gateway) (request : Rest.Request) : Prop where
  /-- Apart from the plant everything stays. -/
  plantOnly : (gateway.http request).2 = { gateway with plant := (gateway.http request).2.plant }
  /-- The memories change only by a request that presets inputs. -/
  changed : (gateway.http request).2.plant.registry ≠ gateway.plant.registry →
    ∃ interface response, gateway.interface = some interface ∧
      (gateway.http request).1 = some response ∧
      Rest.Presets interface request response gateway.plant.registry
        (gateway.http request).2.plant.registry
  /-- A post to the ingest endpoint that succeeds has preset inputs. -/
  accepted : ∀ response, (gateway.http request).1 = some response → request.IsPosted →
    response.status = 200 →
      ∃ interface, gateway.interface = some interface ∧
        Rest.Presets interface request response gateway.plant.registry
          (gateway.http request).2.plant.registry
  /-- A command for an area of the operator is not carried out, whatever blanks stand around the
  name of the area. -/
  operator : ∀ (command : Ingest.Command) (area : Area) (front back : String),
    Rest.commandOf? request = some command → area.isOperator = true →
      Text.isAllBlank front → Text.isAllBlank back → command.area = front ++ area.name ++ back →
        (gateway.http request).2.plant.registry = gateway.plant.registry
  /-- A request that asks for anything but the health without authority is counted, and nothing
  else comes of it. -/
  refused : ∀ interface, gateway.interface = some interface → gateway.isStopped = false →
    request.target.path ≠ "/api/v1/health" → ¬ interface.Authorises request →
      ∃ response, (gateway.http request).1 = some response ∧ response.status = 401 ∧
        (gateway.http request).2.plant =
          ⟨gateway.plant.registry,
            { gateway.plant.counters with
              restRequests := gateway.plant.counters.restRequests + 1
              restUnauthorized := gateway.plant.counters.restUnauthorized + 1 }⟩

theorem confines_http (gateway : Gateway) (request : Rest.Request) : gateway.Confines request where
  plantOnly := by
    rcases gateway.http_cases request with unheard | ⟨interface, -, answered⟩
    · rw [unheard]
    · rw [answered]
  changed different := by
    rcases gateway.http_cases request with unheard | ⟨interface, serves, answered⟩
    · rw [unheard] at different
      contradiction
    · rw [answered] at different ⊢
      have posted := Decidable.not_not.1 (mt Rest.registry_handle_of_not_posted different)
      exact ⟨interface, _, serves, rfl, Rest.presets_of_status posted.1 posted.2⟩
  accepted response sent posted succeeded := by
    rcases gateway.http_cases request with unheard | ⟨interface, serves, answered⟩
    · rw [unheard] at sent
      contradiction
    · rw [answered] at sent ⊢
      cases sent
      exact ⟨interface, serves, Rest.presets_of_status posted succeeded⟩
  operator command area front back inBody isOperator frontBlank backBlank spelled := by
    have named := Ingest.areaOf?_eq_some_iff.2 ⟨front, back, frontBlank, backBlank, spelled⟩
    rcases gateway.http_cases request with unheard | ⟨interface, -, answered⟩
    · rw [unheard]
    · rw [answered]
      exact Rest.registry_handle_of_operator inBody named isOperator
  refused interface serves goesOn other unauthorised := by
    rw [http_of_interface serves goesOn]
    obtain ⟨status, plant⟩ := Rest.handle_of_unauthorised other unauthorised
    exact ⟨_, rfl, status, plant⟩

/-! ## Sequences of requests -/

/-- Answers some requests one after the other. -/
def answers (gateway : Gateway) (requests : List Rest.Request) :
    List (Option Rest.Response) × Gateway :=
  sequence (fun request gateway => gateway.http request) requests gateway

/-- The writes that some requests have made, each with the key of its memory. -/
def presets (gateway : Gateway) (requests : List Rest.Request) : List (String × AreaWrite) :=
  (requests.zip (gateway.answers requests).1).filterMap fun step =>
    step.2.bind (Rest.preset? step.1)

theorem presets_cons (gateway : Gateway) (request : Rest.Request)
    (rest : List Rest.Request) :
    gateway.presets (request :: rest) =
      ((gateway.http request).1.bind (Rest.preset? request)).toList ++
        (gateway.http request).2.presets rest := by
  rw [presets, answers, sequence_cons, List.zip_cons_cons, List.filterMap_cons]
  cases (gateway.http request).1.bind (Rest.preset? request) <;> rfl

/-- One request makes the write that its response tells of, and this goes to inputs. -/
theorem follows_http (gateway : Gateway) (request : Rest.Request) :
    gateway.plant.registry.Follows
        ((gateway.http request).1.bind (Rest.preset? request)).toList
        (gateway.http request).2.plant.registry ∧
      ∀ made ∈ (gateway.http request).1.bind (Rest.preset? request),
        made.2.area.isOperator = false := by
  rcases gateway.http_cases request with unheard | ⟨interface, -, answered⟩
  · rw [unheard]
    exact ⟨.unchanged gateway.plant.registry, nofun⟩
  · rw [answered]
    exact Rest.follows_handle interface gateway.status request gateway.plant

/-- A sequence of requests leaves what its writes leave, and all of these go to inputs. -/
theorem follows_answers (gateway : Gateway) (requests : List Rest.Request) :
    gateway.plant.registry.Follows (gateway.presets requests)
        (gateway.answers requests).2.plant.registry ∧
      ∀ made ∈ gateway.presets requests, made.2.area.isOperator = false := by
  induction requests generalizing gateway with
  | nil => exact ⟨.unchanged gateway.plant.registry, nofun⟩
  | cons request rest ih =>
      obtain ⟨first, firstInput⟩ := gateway.follows_http request
      obtain ⟨later, laterInput⟩ := ih (gateway.http request).2
      rw [presets_cons]
      refine ⟨first.append later, fun made member => ?_⟩
      rcases List.mem_append.1 member with now | afterwards
      · exact firstInput made (Option.mem_toList.1 now)
      · exact laterInput made afterwards

end Gateway

/-- Writes to inputs leave the areas of the operator as they were. -/
theorem Store.operator_afterAll {writes : List AreaWrite}
    (inputs : ∀ write ∈ writes, write.area.isOperator = false) (store : Store) :
    (store.afterAll writes).coils = store.coils ∧
      (store.afterAll writes).holdingRegisters = store.holdingRegisters := by
  induction writes generalizing store with
  | nil => exact ⟨rfl, rfl⟩
  | cons write rest ih =>
      obtain ⟨first, others⟩ := List.forall_mem_cons.1 inputs
      obtain ⟨coils, registers⟩ := ih others (store.after write)
      obtain ⟨coilsFirst, registersFirst⟩ := operator_after first store
      exact ⟨coils.trans coilsFirst, registers.trans registersFirst⟩

/-- Whatever requests arrive at the HTTP interface of a gateway, in whatever state the gateway is:
the memories are left as the successful posts to the ingest endpoint have written them, the areas
of the operator stay as they are, and every single request is confined. -/
theorem http_presets_inputs_only (gateway : Gateway) (requests : List Rest.Request) :
    gateway.plant.registry.Follows (gateway.presets requests)
        (gateway.answers requests).2.plant.registry ∧
      (∀ key store, gateway.plant.registry.find? key = some store →
        ∃ last, (gateway.answers requests).2.plant.registry.find? key = some last ∧
          last.coils = store.coils ∧ last.holdingRegisters = store.holdingRegisters) ∧
      ∀ earlier request later, requests = earlier ++ request :: later →
        (gateway.answers earlier).2.Confines request := by
  obtain ⟨follows, inputs⟩ := gateway.follows_answers requests
  refine ⟨follows, fun key store present => ?_, fun earlier request later _ =>
    Gateway.confines_http _ request⟩
  have memory := follows.memory key
  rw [present, Option.map_some] at memory
  exact ⟨_, memory, Store.operator_afterAll (fun write member =>
    inputs (key, write) (mem_writesTo_iff.1 member)) store⟩

/-- A request that sets the second of two cells of an area. -/
def secondSet (area token : String) : Rest.Request where
  method := "POST"
  target := ⟨"/api/v1/ingest", ""⟩
  headers := [("Content-Type", "application/json"), ("Authorization", "Bearer " ++ token)]
  body := Json.bytesOf ("[\"1\",\"" ++ area ++ "\",0,[0,1]]")

/-- A gateway of two coils and two discrete inputs that asks for a token. -/
def guardedInputs : Gateway where
  plant := ⟨⟨.ofList [("1", .ofLayout ⟨2, 2, 0, 0⟩ none)], "1"⟩, {}⟩
  interface := some { tokens := .make true ["open"] }

theorem commandOf?_secondSet :
    Rest.commandOf? (secondSet " discrete_inputs " "open") =
      some ⟨"1", " discrete_inputs ", 0, [0, 1], []⟩ := by
  cbv

theorem status_secondSet :
    (guardedInputs.http (secondSet " discrete_inputs " "open")).1.map Rest.Response.status =
      some 200 := by
  have named : (secondSet " discrete_inputs " "open").target.path = Rest.Endpoint.ingest.path := rfl
  rw [Gateway.http_of_interface rfl rfl, Option.map_some, Rest.handle_of_letThrough (by cbv),
    Rest.status_finishing, Rest.route_of_endpoint named rfl]
  simp only [Rest.Endpoint.answer, Rest.answerIngest, commandOf?_secondSet]
  rfl

/-- Of three requests the first one presets discrete inputs whose name has blanks around it, the
second one asks for coils, and the third one has no valid token. -/
theorem spaced_inputs_preset :
    ∃ last response refusal,
      (guardedInputs.answers [secondSet " discrete_inputs " "open", secondSet " coils" "open",
        secondSet "discrete_inputs" "shut"]).2.plant.registry.find? "1" = some last ∧
      last.coils = [false, false] ∧
      Rest.Presets { tokens := .make true ["open"] } (secondSet " discrete_inputs " "open")
        response guardedInputs.plant.registry
        (guardedInputs.http (secondSet " discrete_inputs " "open")).2.plant.registry ∧
      ((guardedInputs.answers [secondSet " discrete_inputs " "open"]).2.http
          (secondSet " coils" "open")).2.plant.registry =
        (guardedInputs.answers [secondSet " discrete_inputs " "open"]).2.plant.registry ∧
      ((guardedInputs.answers [secondSet " discrete_inputs " "open",
          secondSet " coils" "open"]).2.http (secondSet "discrete_inputs" "shut")).1 =
        some refusal ∧ refusal.status = 401 := by
  obtain ⟨-, operator, confined⟩ := http_presets_inputs_only guardedInputs
    [secondSet " discrete_inputs " "open", secondSet " coils" "open",
      secondSet "discrete_inputs" "shut"]
  obtain ⟨last, present, coils, -⟩ := operator "1" _ rfl
  obtain ⟨response, answered, succeeded⟩ := Option.map_eq_some_iff.1 status_secondSet
  obtain ⟨interface, serves, preset⟩ :=
    (confined [] _ _ rfl).accepted response answered (by decide) succeeded
  cases serves
  have closed := (confined [secondSet " discrete_inputs " "open"] _ _ rfl).operator
    ⟨"1", " coils", 0, [0, 1], []⟩ .coils " " "" (by cbv) rfl (by decide) (by decide) rfl
  obtain ⟨refusal, refused, status, -⟩ :=
    (confined [secondSet " discrete_inputs " "open", secondSet " coils" "open"] _ [] rfl).refused
      { tokens := .make true ["open"] } rfl rfl (by decide) (by
        rw [Rest.Interface.Authorises, ← Access.TokenSet.isOk_verify_iff]
        decide +kernel)
  exact ⟨last, response, refusal, present, coils, preset, closed, refused, status⟩

end RegisterGateway
