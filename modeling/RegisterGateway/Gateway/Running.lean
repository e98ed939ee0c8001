import RegisterGateway.Config.Memories
import RegisterGateway.Gateway.Startup

/-!
# A running gateway

All entrances of a gateway act on one plant. A run is a sequence of events, each of them at one
entrance; the order of the events is the order in which the network delivers them.
-/

namespace RegisterGateway

/-- A session with the broker and what it was told. -/
structure Subscription where
  settings : Mqtt.Settings
  session : Mqtt.Session := {}
  deriving DecidableEq, Repr

/-- What the diagnostics tell of a subscription. -/
def Subscription.status (subscription : Subscription) : Mqtt.Status :=
  { subscription.settings.initialStatus with connected := subscription.session.connected }

/-- A gateway that has been started. -/
structure Gateway where
  plant : Plant
  listeners : Table UInt16 Modbus.Listener := .empty
  rawIngest : Option RawIngest.Listener := none
  subscription : Option Subscription := none
  interface : Option Rest.Interface := none
  isStopped : Bool := false
  deriving DecidableEq

/-- What happens at a gateway. -/
inductive GatewayEvent where
  | modbus (port : UInt16) (event : Modbus.ListenerEvent)
  | rawIngest (event : RawIngest.ListenerEvent)
  | broker (event : Mqtt.Event)
  | http (request : Rest.Request)
  | stop
  deriving DecidableEq, Repr

/-- What a gateway does upon an event. -/
inductive GatewayOutcome where
  | network (outcome : Net.Outcome)
  | response (response : Rest.Response)
  | silence
  deriving DecidableEq, Repr

namespace Gateway

/-- Starts all entrances of a configuration around its memories: the Modbus listeners first, then
the ingest listener, the broker session and the HTTP interface. -/
def start (config : Config) (registry : Registry) : Except StartError Gateway := do
  let listeners ← config.listeners
  let rawIngest ← config.rawIngest.bound
  let subscription ← config.mqtt.subscription
  let interface ←
    if config.rest.enabled then (config.rest.bound config.memories).map some else .ok none
  pure {
    plant := { registry := registry }
    listeners := listeners
    rawIngest := rawIngest
    subscription := subscription.map (fun settings => { settings := settings })
    interface := interface }

/-- What the diagnostics tell of the broker session. -/
def status (gateway : Gateway) : Option Mqtt.Status :=
  gateway.subscription.map Subscription.status

/-- The number of tasks that wind up when the gateway stops. -/
def gracefulTasks (gateway : Gateway) : Nat :=
  gateway.rawIngest.toList.length + gateway.interface.toList.length

/-- The number of tasks that are cut off when the gateway stops. -/
def detachedTasks (gateway : Gateway) : Nat :=
  gateway.listeners.size + gateway.subscription.toList.length

/-- The gateway after it has stopped. Modbus listeners take no further connection, but serve
those that are open; everything else ends. -/
def stop (gateway : Gateway) : Gateway :=
  { gateway with
    listeners := gateway.listeners.map (fun _ listener => listener.stop)
    rawIngest := gateway.rawIngest.map RawIngest.Listener.stop
    isStopped := true }

def modbus (gateway : Gateway) (port : UInt16) (event : Modbus.ListenerEvent) :
    Net.Outcome × Gateway :=
  match gateway.listeners.find? port with
  | none => (.unheard, gateway)
  | some listener =>
      let (outcome, listener, plant) := listener.step gateway.plant event
      (outcome, { gateway with
        listeners := gateway.listeners.replace port listener, plant := plant })

def ingest (gateway : Gateway) (event : RawIngest.ListenerEvent) : Net.Outcome × Gateway :=
  match gateway.rawIngest with
  | none => (.unheard, gateway)
  | some listener =>
      let (outcome, listener, plant) := listener.step gateway.plant event
      (outcome, { gateway with rawIngest := some listener, plant := plant })

/-- An event of the broker session, which hears nothing once the gateway has stopped. -/
def broker (gateway : Gateway) (event : Mqtt.Event) : Gateway :=
  match gateway.subscription with
  | none => gateway
  | some subscription =>
      if gateway.isStopped then gateway
      else
        let (session, plant) := subscription.session.step gateway.plant event
        { gateway with
          subscription := some { subscription with session := session }, plant := plant }

/-- A request to the HTTP interface, which answers until the gateway has stopped. -/
def http (gateway : Gateway) (request : Rest.Request) : Option Rest.Response × Gateway :=
  match gateway.interface with
  | none => (none, gateway)
  | some interface =>
      if gateway.isStopped then (none, gateway)
      else
        let (response, plant) := Rest.handle interface gateway.status request gateway.plant
        (some response, { gateway with plant := plant })

/-- What a gateway does upon an event, and what the event leaves. -/
def step (gateway : Gateway) (event : GatewayEvent) : GatewayOutcome × Gateway :=
  match event with
  | .modbus port event =>
      let (outcome, after) := gateway.modbus port event
      (.network outcome, after)
  | .rawIngest event =>
      let (outcome, after) := gateway.ingest event
      (.network outcome, after)
  | .broker event => (.silence, gateway.broker event)
  | .http request =>
      match gateway.http request with
      | (some response, after) => (.response response, after)
      | (none, after) => (.network .unheard, after)
  | .stop => (.silence, gateway.stop)

def run (gateway : Gateway) (events : List GatewayEvent) : Gateway :=
  events.foldl (fun gateway event => (gateway.step event).2) gateway

end Gateway

end RegisterGateway
