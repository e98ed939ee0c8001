import RegisterGateway.Ingest.Entrance
import RegisterGateway.Mqtt.Broker

/-!
# Broker sessions

A session runs over the outcomes that the connection to the broker delivers. Every
acknowledged connection is followed by a subscription, every message is an ingest command
or is rejected, and a failure ends the connection until the next acknowledgement. A
subscription that fails ends the session.
-/

namespace RegisterGateway.Mqtt

/-- The id under which a client presents itself. -/
inductive ClientId where
  | given (text : String)
  | generated
  deriving DecidableEq, Repr

namespace ClientId

/-- The id that is asked for; a blank one is generated. -/
def ofText (text : String) : ClientId :=
  if Text.isAllBlank text then .generated else .given text

/-- The text of an id; a generated one ends in the unique part that it is given. -/
def toText (unique : String) : ClientId → String
  | .given text => text
  | .generated => "mma-ingest-" ++ unique

end ClientId

/-- What a client is told of its broker and its topic. -/
structure Settings where
  broker : Broker
  clientId : ClientId
  topic : String
  username : Option String := none
  password : Option String := none
  retryMs : Nat := 10000
  deriving DecidableEq, Repr

namespace Settings

def make (broker clientId topic : String) : Except InvalidBroker Settings :=
  (Broker.parse broker).map (fun broker =>
    { broker := broker, clientId := .ofText clientId, topic := topic })

/-- The login that is sent: both texts must be known. -/
def login? (settings : Settings) : Option (String × String) :=
  match settings.username, settings.password with
  | some username, some password => some (username, password)
  | _, _ => none

end Settings

/-- What the diagnostics tell of a session. -/
structure Status where
  broker : String
  topic : String
  connected : Bool
  deriving DecidableEq, Repr

/-- The status before the first connection. -/
def Settings.initialStatus (settings : Settings) : Status :=
  ⟨settings.broker.toText, settings.topic, false⟩

/-- What the connection to the broker delivers; an acknowledgement comes with the success of
the subscription that follows it. -/
inductive Event where
  | acknowledged (subscribed : Bool)
  | message (payload : List UInt8)
  | other
  | failure
  deriving DecidableEq, Repr

/-- Carries out the command in a message. -/
def receive (payload : List UInt8) (plant : Plant) : Plant :=
  let counted := plant.record .mqttMessage
  match Ingest.Command.ofBytes? payload with
  | none => counted.record .mqttRejected
  | some command => (counted.ingest [] [.mqttRejected] command).2

/-- A session: whether it still runs and whether it counts as connected. -/
structure Session where
  running : Bool := true
  connected : Bool := false
  deriving DecidableEq, Repr

/-- One event of a running session; the connection counts as soon as it is acknowledged. -/
def Session.step (session : Session) (plant : Plant) (event : Event) : Session × Plant :=
  if session.running then
    match event with
    | .acknowledged subscribed => (⟨subscribed, true⟩, plant)
    | .message payload => (session, receive payload plant)
    | .other => (session, plant)
    | .failure => ({ session with connected := false }, plant)
  else (session, plant)

end RegisterGateway.Mqtt
