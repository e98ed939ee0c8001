import RegisterGateway.Proofs.Ingest.Writes
import RegisterGateway.Rest.Interface

/-!
# What an HTTP request does to the memories

Only a request that posts to the ingest endpoint can change a memory. It does so exactly if the
status of its response is 200, and then by the command in its body.
-/

namespace RegisterGateway.Rest

/-- The write that a request asks for, with the key of its memory: that of the command which is
posted to the ingest endpoint. -/
def Request.asked? (request : Request) : Option (String × AreaWrite) :=
  if Endpoint.ofPath? request.target.path = some .ingest ∧ request.method = "POST" then
    (commandOf? request).bind Ingest.Command.asked?
  else none

/-- Whether a request asks for something to be shown. -/
def Request.isRead (request : Request) : Bool :=
  request.method = "GET" || request.method = "HEAD"

theorem isRead_eq_false_of_post {request : Request} (posts : request.method = "POST") :
    request.isRead = false := by
  simp [Request.isRead, posts]

/-- A request that asks for something to be shown asks for no write. -/
theorem asked?_eq_none_of_isRead {request : Request} (reads : request.isRead = true) :
    request.asked? = none := by
  apply if_neg
  rintro ⟨-, posts⟩
  rw [isRead_eq_false_of_post posts] at reads
  contradiction

/-- What a request can come to. -/
inductive Outcome (request : Request) (before : Registry) : Response → Registry → Prop where
  | refused {response : Response} (failed : response.status ≠ 200) :
      Outcome request before response before
  | shown {response : Response} (succeeded : response.status = 200)
      (reads : request.isRead = true) : Outcome request before response before
  | written {response : Response} {after : Registry} {key : String} {write : AreaWrite}
      (succeeded : response.status = 200) (posts : request.method = "POST")
      (asked : request.asked? = some (key, write)) (wrote : before.Wrote key write after) :
      Outcome request before response after

/-- The status alone decides what a response says about its request. -/
theorem Outcome.of_status {request : Request} {before after : Registry}
    {first second : Response} (sameStatus : second.status = first.status)
    (outcome : Outcome request before first after) : Outcome request before second after := by
  cases outcome with
  | refused failed => exact .refused (sameStatus ▸ failed)
  | shown succeeded reads => exact .shown (sameStatus.trans succeeded) reads
  | written succeeded posts asked wrote =>
      exact .written (sameStatus.trans succeeded) posts asked wrote

theorem status_finishing (request : Request) (response : Response) :
    (finishing request response).status = response.status := by
  unfold finishing
  split
  · rfl
  · split
    · split <;> rfl
    · rfl

theorem status_ingestRefused_ne (error : Ingest.IngestError) :
    (ingestRefused error).status ≠ 200 := by
  cases error with
  | unknownMemory => exact (show 404 ≠ 200 by decide)
  | denied => exact (show 403 ≠ 200 by decide)
  | invalidArea | invalidPayload | payloadMismatch | invalidBoolean | memory =>
      exact (show 400 ≠ 200 by decide)

/-- Endpoints other than that for ingest leave the memories alone. -/
theorem registry_answer {endpoint : Endpoint} (different : endpoint ≠ .ingest)
    (interface : Interface) (status : Option Mqtt.Status) (request : Request) (plant : Plant) :
    (endpoint.answer interface status request plant).2.registry = plant.registry := by
  cases endpoint with
  | ingest => contradiction
  | health | memories | statistics | broker => rfl
  | readMemory =>
      simp only [Endpoint.answer, answerRead]
      repeat' split
      all_goals rfl

/-- Endpoints other than that for ingest are only looked at. -/
theorem isRead_of_methods {endpoint : Endpoint} (different : endpoint ≠ .ingest)
    {request : Request} (answered : endpoint.methods.contains request.method = true) :
    request.isRead = true := by
  cases endpoint with
  | ingest => contradiction
  | health | memories | statistics | broker | readMemory =>
      simpa [Endpoint.methods, Request.isRead] using answered

theorem outcome_answerIngest {request : Request}
    (posted : Endpoint.ofPath? request.target.path = some .ingest ∧ request.method = "POST")
    (interface : Interface) (plant : Plant) :
    Outcome request plant.registry (answerIngest interface request plant).1
      (answerIngest interface request plant).2.registry := by
  unfold answerIngest
  split
  · exact .refused (show 403 ≠ 200 by decide)
  · split
    · exact .refused (show 400 ≠ 200 by decide)
    · rename_i command inBody
      split
      · exact .refused (show 403 ≠ 200 by decide)
      · simp only [Plant.ingest]
        cases ingested : command.ingest plant.registry with
        | error error => exact .refused (status_ingestRefused_ne error)
        | ok result =>
            obtain ⟨key, write, asked, wrote⟩ := Ingest.written_of_ingest ingested
            have askedByRequest : request.asked? = some (key, write) := by
              rw [Request.asked?, if_pos posted, inBody, Option.bind_some, asked]
            exact .written rfl posted.2 askedByRequest wrote

theorem outcome_route (interface : Interface) (status : Option Mqtt.Status) (request : Request)
    (plant : Plant) :
    Outcome request plant.registry (route interface status request plant).1
      (route interface status request plant).2.registry := by
  unfold route
  split
  · exact .refused (show 404 ≠ 200 by decide)
  · rename_i endpoint named
    split
    · rename_i answered
      by_cases ingests : endpoint = .ingest
      · subst ingests
        have posts : request.method = "POST" := by
          simpa [Endpoint.methods] using answered
        exact outcome_answerIngest ⟨named, posts⟩ interface plant
      · rw [registry_answer ingests]
        by_cases succeeded : (endpoint.answer interface status request plant).1.status = 200
        · exact .shown succeeded (isRead_of_methods ingests answered)
        · exact .refused succeeded
    · exact .refused (show 405 ≠ 200 by decide)

/-- A request that is let through is answered by what its path names. -/
theorem handle_of_letThrough {interface : Interface} {request : Request}
    (through : isLetThrough interface request = true) (status : Option Mqtt.Status)
    (plant : Plant) :
    handle interface status request plant =
      (finishing request (route interface status request (plant.record .restRequest)).1,
        (route interface status request (plant.record .restRequest)).2) := by
  simp only [handle, through, if_true]

/-- A request that is not let through is counted, and nothing else comes of it. -/
theorem handle_of_turnedAway {interface : Interface} {request : Request}
    (turnedAway : isLetThrough interface request = false) (status : Option Mqtt.Status)
    (plant : Plant) :
    handle interface status request plant =
      (finishing request unauthorized,
        (plant.record .restRequest).record .restUnauthorized) := by
  simp only [handle, turnedAway, Bool.false_eq_true, if_false]

/-- A path and a method that belong together are answered by their endpoint. -/
theorem route_of_endpoint {endpoint : Endpoint} {request : Request}
    (named : request.target.path = endpoint.path)
    (answered : endpoint.methods.contains request.method = true) (interface : Interface)
    (status : Option Mqtt.Status) (plant : Plant) :
    route interface status request plant = endpoint.answer interface status request plant := by
  simp only [route, named, Endpoint.ofPath?_path, answered, if_true]

theorem outcome_handle (interface : Interface) (status : Option Mqtt.Status) (request : Request)
    (plant : Plant) :
    Outcome request plant.registry (handle interface status request plant).1
      (handle interface status request plant).2.registry := by
  unfold handle
  apply Outcome.of_status (status_finishing request _)
  split
  · exact outcome_route interface status request (plant.record .restRequest)
  · exact .refused (show 401 ≠ 200 by decide)

end RegisterGateway.Rest
