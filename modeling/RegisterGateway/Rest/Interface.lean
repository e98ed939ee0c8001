import RegisterGateway.Access.Tokens
import RegisterGateway.Config.Model
import RegisterGateway.Ingest.Entrance
import RegisterGateway.Mqtt.Session
import RegisterGateway.Rest.Http
import RegisterGateway.Rest.MediaType
import RegisterGateway.Rest.Query

/-!
# The HTTP interface

Six endpoints below one root. A request is counted; unless it asks for the health of the
gateway it must present a token; then its path decides the endpoint, and its method whether
the endpoint answers. Endpoints answer with an envelope that holds data or an error. Only
an accepted ingest changes a memory.
-/

namespace RegisterGateway.Rest

/-- What a path may name. -/
inductive Endpoint where
  | health
  | ingest
  | readMemory
  | memories
  | statistics
  | broker
  deriving DecidableEq, Repr

namespace Endpoint

def all : List Endpoint := [.health, .ingest, .readMemory, .memories, .statistics, .broker]

def path : Endpoint → String
  | .health => "/api/v1/health"
  | .ingest => "/api/v1/ingest"
  | .readMemory => "/api/v1/memory/read"
  | .memories => "/api/v1/diagnostics/memory"
  | .statistics => "/api/v1/diagnostics/stats"
  | .broker => "/api/v1/diagnostics/mqtt"

/-- The endpoint of a path, which must be written exactly so. -/
def ofPath? (path : String) : Option Endpoint :=
  all.find? (fun endpoint => endpoint.path = path)

def methods : Endpoint → List String
  | .ingest => ["POST"]
  | _ => ["GET", "HEAD"]

/-- The methods that an endpoint answers, as it tells them. -/
def allow (endpoint : Endpoint) : String :=
  String.intercalate "," endpoint.methods

@[simp] theorem ofPath?_path (endpoint : Endpoint) : ofPath? endpoint.path = some endpoint := by
  cases endpoint <;> decide

end Endpoint

/-- Which endpoints are switched on, and what the interface knows besides the memories. -/
structure Interface where
  tokens : Access.TokenSet
  ingestEnabled : Bool := true
  readEnabled : Bool := true
  diagnosticsEnabled : Bool := true
  memories : Config.Memories := .empty
  deriving DecidableEq

def Interface.ofSettings (settings : Config.RestSettings) (memories : Config.Memories) :
    Interface where
  tokens := .make settings.authEnabled settings.tokens
  ingestEnabled := settings.enableIngest
  readEnabled := settings.enableRead
  diagnosticsEnabled := settings.enableDiagnostics
  memories := memories

/-! ## Responses -/

def envelope (status : Nat) (data error : Json.Value) : Response where
  status := status
  isJson := true
  body := (Json.Value.record
    [("success", .bool (status == 200)), ("data", data), ("error", error)]).write

def success (data : Json.Value) : Response :=
  envelope 200 data .null

def failure (status : Nat) (code message : String) : Response :=
  envelope status .null (.record [("code", .string code), ("message", .string message)])

/-- The response to a request without a valid token. -/
def unauthorized : Response := failure 401 "AUTH.UNAUTHORIZED" "unauthorized"

/-- The response to a request that is not allowed. -/
def forbidden (message : String) : Response := failure 403 "AUTH.FORBIDDEN" message

/-- The response to a request that asks for nothing possible. -/
def badRequest (message : String) : Response := failure 400 "INVALID.REQUEST" message

def memoryNotFound (message : String) : Response := failure 404 "RESOURCE.NOT_FOUND" message

def ingestRefused (error : Ingest.IngestError) : Response :=
  match error with
  | .unknownMemory _ => memoryNotFound error.message
  | .denied _ => failure 403 "INGEST.DENIED" error.message
  | _ => badRequest error.message

/-! ## Endpoints -/

def maxBodyBytes : Nat := 2097152

/-- The command in the body of a request that is declared as JSON; what follows it does not
count. -/
def commandOf? (request : Request) : Option Ingest.Command :=
  match request.textHeader? "content-type" with
  | none => none
  | some contentType =>
    if isJsonType contentType && request.body.length ≤ maxBodyBytes then
      Ingest.Command.ofFront? request.body
    else none

/-- Carries out the command in a request. The areas that belong to the operator are closed
here, whatever their memory allows. -/
def answerIngest (interface : Interface) (request : Request) (plant : Plant) : Response × Plant :=
  if !interface.ingestEnabled then (forbidden "ingest is disabled", plant)
  else match commandOf? request with
    | none => (badRequest "invalid json", plant.record .restRejected)
    | some command =>
      if (Ingest.areaOf? command.area).any Area.isOperator then
        (forbidden "area is not writable via ingest", plant.record .restRejected)
      else match plant.ingest [.restIngest] [.restRejected] command with
        | (.ok written, after) =>
            (success (.record [("status", .string "accepted"), ("memory", .string command.memory),
              ("area", .string command.area), ("written", .nat written)]), after)
        | (.error error, after) => (ingestRefused error, after)

def valuesToJson : Values → Json.Value
  | .bits values => .array (values.map .bool)
  | .registers values => .array (values.map fun word => .nat word.toNat)

/-- Reads a range of a memory. -/
def answerRead (interface : Interface) (query : String) (plant : Plant) : Response × Plant :=
  if !interface.readEnabled then (forbidden "read is disabled", plant)
  else match ReadQuery.ofText? query with
    | none => (badRequest "invalid query", plant)
    | some query =>
      match query.memory.filter (fun key => !key.isEmpty) with
      | none => (badRequest "memory is required", plant)
      | some key =>
        match plant.registry.find? key with
        | none => (memoryNotFound "memory not found", plant)
        | some store =>
          match query.area, query.address, query.count with
          | some name, some address, some count =>
            match Ingest.areaOf? name with
            | none => (badRequest "unknown area", plant)
            | some area =>
              match store.read area address count with
              | .error error => (badRequest error.message, plant)
              | .ok values =>
                  (success (.record [("memory", .string key), ("area", .string area.name),
                    ("address", .nat address.toNat), ("values", valuesToJson values)]),
                    plant.record .restRead)
          | _, _, _ => (badRequest "area, address and count are required", plant)

/-- What the diagnostics tell of a memory. -/
def describeMemory (key : String) (settings : Config.MemorySettings) (store : Store) :
    Json.Value :=
  let area (area : Area) : String × Json.Value :=
    (area.name, .record [("start", .nat (settings.area area).start.toNat),
      ("size", .nat (settings.area area).size)])
  .record ([("key", .string key), ("default", .bool settings.isDefault)] ++ Area.all.map area ++
    [("run_state", .string store.state.name), ("state_sealing", .bool store.gate.isSome)] ++
    store.gate.toList.map (fun gate => ("gate_address", .nat gate.toNat)))

/-- What the diagnostics tell of the memories. -/
def describeMemories (interface : Interface) (registry : Registry) : Json.Value :=
  .array (interface.memories.entries.filterMap (fun entry =>
    (registry.find? entry.1).map (describeMemory entry.1 entry.2)))

/-- What the diagnostics tell of the counters. -/
def describeCounters (counters : Counters) : Json.Value :=
  let group (fields : List (String × UInt64)) : Json.Value :=
    .record (fields.map fun field => (field.1, .nat field.2.toNat))
  .record [
    ("rest", group [("requests", counters.restRequests), ("reads", counters.restReads),
      ("ingest", counters.restIngest), ("rejected", counters.restRejected),
      ("unauthorized", counters.restUnauthorized)]),
    ("ingest", group [("batches", counters.ingestBatches), ("written", counters.ingestWritten),
      ("rejected", counters.ingestRejected)]),
    ("modbus", group [("connections", counters.modbusConnections),
      ("connections_refused", counters.modbusConnectionsRefused),
      ("requests", counters.modbusRequests), ("exceptions", counters.modbusExceptions)]),
    ("raw_ingest", group [("frames", counters.rawIngestFrames),
      ("rejected", counters.rawIngestRejected)]),
    ("mqtt", group [("messages", counters.mqttMessages), ("rejected", counters.mqttRejected)])]

/-- What the diagnostics tell of the broker subscription. -/
def describeBroker : Option Mqtt.Status → Json.Value
  | none => .record [("enabled", .bool false)]
  | some status => .record [("enabled", .bool true), ("connected", .bool status.connected),
      ("broker", .string status.broker), ("topic", .string status.topic)]

/-- A diagnostics response, if diagnostics are on. -/
def diagnostics (interface : Interface) (data : Json.Value) : Response :=
  if interface.diagnosticsEnabled then success data else forbidden "diagnostics is disabled"

def Endpoint.answer (endpoint : Endpoint) (interface : Interface) (status : Option Mqtt.Status)
    (request : Request) (plant : Plant) : Response × Plant :=
  match endpoint with
  | .health => (success (.record [("status", .string "ok")]), plant)
  | .ingest => answerIngest interface request plant
  | .readMemory => answerRead interface request.target.query plant
  | .memories => (diagnostics interface (describeMemories interface plant.registry), plant)
  | .statistics => (diagnostics interface (describeCounters plant.counters), plant)
  | .broker => (diagnostics interface (describeBroker status), plant)

/-! ## Requests -/

def bearerToken? (request : Request) : Option String :=
  (request.textHeader? "authorization").bind (fun value =>
    let scheme := "Bearer "
    if scheme.toList.isPrefixOf value.toList then
      some (String.ofList (value.toList.drop scheme.length))
    else none)

/-- Whether a request may go on: it asks for the health, or presents a valid token. -/
def isLetThrough (interface : Interface) (request : Request) : Bool :=
  request.target.path = Endpoint.health.path ||
    (interface.tokens.verify (bearerToken? request)).isOk

/-- The answer of what a path names, for a request that has been let through. -/
def route (interface : Interface) (status : Option Mqtt.Status) (request : Request)
    (plant : Plant) : Response × Plant :=
  match Endpoint.ofPath? request.target.path with
  | none => (.empty 404, plant)
  | some endpoint =>
      if endpoint.methods.contains request.method then
        endpoint.answer interface status request plant
      else (.empty 405, plant)

/-- What a path adds to any response: an endpoint that does not answer the method tells those
that it does, and a request for headers is answered without a body. -/
def finishing (request : Request) (response : Response) : Response :=
  match Endpoint.ofPath? request.target.path with
  | none => response
  | some endpoint =>
      if endpoint.methods.contains request.method then
        if request.method = "HEAD" then response.withoutBody else response
      else { response with allow := some endpoint.allow }

def handle (interface : Interface) (status : Option Mqtt.Status) (request : Request)
    (plant : Plant) : Response × Plant :=
  let counted := plant.record .restRequest
  let (response, after) :=
    if isLetThrough interface request then route interface status request counted
    else (unauthorized, counted.record .restUnauthorized)
  (finishing request response, after)

end RegisterGateway.Rest
