import RegisterGateway.Proofs.RawIngest.Conversation
import RegisterGateway.Proofs.Telemetry.Entrances

/-!
# What happens at the entrances

Whatever a gateway is told, it completes one thing after the other: a request over HTTP, a message
from the broker, an exchange with a Modbus peer, a frame, and the arrival of a Modbus peer. The
bytes of one arrival may complete many of them, or none. By `Gateway.leadsTo_run` nothing else ever
changes a plant.
-/

namespace RegisterGateway

/-- Something that is completed at an entrance. -/
inductive Activity where
  | http (interface : Rest.Interface) (status : Option Mqtt.Status) (request : Rest.Request)
  | message (payload : List UInt8)
  | exchange (resolver : Modbus.Resolver) (header : Modbus.Header) (body : List UInt8)
  | frame (sent : RawIngest.Frame)
  /-- A connection ends with bytes that are no frame, or for want of a whole one. -/
  | misframed
  | arrival (admitted : Bool)

/-- What has come of an activity. -/
inductive Effect where
  /-- A request has been answered, and has made a write by its command. -/
  | http (made : Option (String × AreaWrite))
  /-- A message has been taken, and has made a write by its command. -/
  | message (made : Option (String × AreaWrite))
  | exchange (isException : Bool)
  | frame (applied : Bool)
  | arrival (admitted : Bool)

/-- Carries out an activity: what has come of it, and the plant that it leaves. -/
def Activity.perform (activity : Activity) (plant : Plant) : Effect × Plant :=
  match activity with
  | .http interface status request =>
      let (response, after) := Rest.handle interface status request plant
      (.http (Rest.preset? request response), after)
  | .message payload =>
      (.message (Mqtt.preset? payload plant.registry), Mqtt.receive payload plant)
  | .exchange resolver header body =>
      (.exchange (Modbus.isException (Modbus.answer resolver header.unitId body plant.registry).1),
        (Modbus.respond resolver header body plant).2)
  | .frame sent =>
      match RawIngest.apply plant.registry sent with
      | .ok registry => (.frame true, RawIngest.applied plant registry)
      | .error _ => (.frame false, (RawIngest.reject plant).plant)
  | .misframed => (.frame false, (RawIngest.reject plant).plant)
  | .arrival true => (.arrival true, plant.record .modbusConnection)
  | .arrival false => (.arrival false, plant.record .modbusConnectionRefused)

namespace Plant

/-- What has come of some activities, one after the other. -/
def effects (plant : Plant) (activities : List Activity) : List Effect :=
  (sequence Activity.perform activities plant).1

/-- The plant that some activities leave. -/
def after (plant : Plant) (activities : List Activity) : Plant :=
  (sequence Activity.perform activities plant).2

variable {plant : Plant}

theorem after_cons (activity : Activity) (rest : List Activity) :
    plant.after (activity :: rest) = (activity.perform plant).2.after rest := rfl

theorem after_append (earlier later : List Activity) :
    plant.after (earlier ++ later) = (plant.after earlier).after later := by
  rw [after, sequence_append]
  rfl

theorem effects_append (earlier later : List Activity) :
    plant.effects (earlier ++ later) =
      plant.effects earlier ++ (plant.after earlier).effects later := by
  rw [effects, sequence_append]
  rfl

theorem length_effects (activities : List Activity) :
    (plant.effects activities).length = activities.length :=
  length_sequence Activity.perform activities plant

end Plant

/-! ## Everything that happens is made of activities -/

/-- Some activities lead from one plant to another. -/
def Plant.LeadsTo (plant later : Plant) : Prop :=
  ∃ activities, later = plant.after activities

namespace Plant.LeadsTo

variable {plant next later : Plant}

theorem refl (plant : Plant) : plant.LeadsTo plant := ⟨[], rfl⟩

theorem perform (activity : Activity) (plant : Plant) :
    plant.LeadsTo (activity.perform plant).2 := ⟨[activity], rfl⟩

theorem trans (first : plant.LeadsTo next) (second : next.LeadsTo later) :
    plant.LeadsTo later := by
  obtain ⟨earlier, rfl⟩ := first
  obtain ⟨activities, rfl⟩ := second
  exact ⟨earlier ++ activities, (Plant.after_append earlier activities).symm⟩

end Plant.LeadsTo

/-- Going on with a connection leads to what its bytes lead to, if it is open. -/
theorem Net.Connections.leadsTo_proceed (connections : Connections) (number : Nat) {plant : Plant}
    {serving : List UInt8 → Plant → Served}
    (leads : ∀ waiting, plant.LeadsTo (serving waiting plant).plant) :
    plant.LeadsTo (connections.proceed number plant serving).2.2 := by
  unfold proceed
  split
  · exact .refl plant
  · exact leads _

namespace Modbus

theorem leadsTo_serve (resolver : Resolver) (bytes : List UInt8) (plant : Plant) :
    plant.LeadsTo (serve resolver bytes plant).plant := by
  fun_induction serve resolver bytes plant with
  | case1 bytes plant header body rest taken shorter reply next responded ih =>
      have exchanged := Plant.LeadsTo.perform (.exchange resolver header body) plant
      simp only [Activity.perform, responded] at exchanged
      exact exchanged.trans ih
  | case2 | case3 => exact .refl _

theorem Listener.leadsTo_step (listener : Listener) (plant : Plant) (event : ListenerEvent) :
    plant.LeadsTo (listener.step plant event).2.2 := by
  cases event with
  | arrival peer =>
      simp only [step, accept]
      split
      · exact .refl plant
      · split
        · exact .perform (.arrival true) plant
        · exact .perform (.arrival false) plant
  | received connection bytes =>
      exact listener.connections.leadsTo_proceed connection fun waiting => leadsTo_serve _ _ plant
  | closed connection | broken connection =>
      exact listener.connections.leadsTo_proceed connection fun _ => .refl plant

end Modbus

namespace RawIngest

theorem leadsTo_reject (plant : Plant) : plant.LeadsTo (reject plant).plant :=
  .perform .misframed plant

theorem leadsTo_serve (limit : Nat) (bytes : List UInt8) (plant : Plant) :
    plant.LeadsTo (serve limit bytes plant).plant := by
  fun_induction serve limit bytes plant with
  | case1 bytes plant frame rest taken shorter reason refused =>
      have sent := Plant.LeadsTo.perform (.frame frame) plant
      simpa only [Activity.perform, refused] using sent
  | case2 bytes plant frame rest taken shorter registry written ih =>
      have sent := Plant.LeadsTo.perform (.frame frame) plant
      simp only [Activity.perform, written] at sent
      exact sent.trans ih
  | case3 => exact .refl _
  | case4 bytes plant => exact leadsTo_reject plant

theorem Listener.leadsTo_step (listener : Listener) (plant : Plant) (event : ListenerEvent) :
    plant.LeadsTo (listener.step plant event).2.2 := by
  cases event with
  | arrival => exact .refl plant
  | received connection bytes =>
      exact listener.connections.leadsTo_proceed connection fun waiting => leadsTo_serve _ _ plant
  | closed connection =>
      refine listener.connections.leadsTo_proceed connection fun waiting => ?_
      unfold close
      split
      · exact .refl plant
      · exact leadsTo_reject plant
  | silent connection | unreadable connection =>
      exact listener.connections.leadsTo_proceed connection fun _ => leadsTo_reject plant
  | unwritable connection =>
      exact listener.connections.leadsTo_proceed connection fun _ => .refl plant

end RawIngest

theorem Mqtt.Session.leadsTo_step (session : Session) (plant : Plant) (event : Event) :
    plant.LeadsTo (session.step plant event).2 := by
  unfold step
  split
  · cases event with
    | message payload => exact .perform (.message payload) plant
    | acknowledged | other | failure => exact .refl plant
  · exact .refl plant

namespace Gateway

theorem leadsTo_step (gateway : Gateway) (event : GatewayEvent) :
    gateway.plant.LeadsTo (gateway.step event).2.plant := by
  cases event with
  | modbus port event =>
      simp only [step, modbus]
      split
      · exact .refl _
      · exact Modbus.Listener.leadsTo_step _ gateway.plant event
  | rawIngest event =>
      simp only [step, ingest]
      split
      · exact .refl _
      · exact RawIngest.Listener.leadsTo_step _ gateway.plant event
  | broker event =>
      simp only [step, broker]
      split
      · exact .refl _
      · split
        · exact .refl _
        · exact Mqtt.Session.leadsTo_step _ gateway.plant event
  | http request =>
      rcases gateway.http_cases request with unheard | ⟨interface, -, answered⟩
      · rw [step, unheard]
        exact .refl _
      · rw [step, answered]
        exact .perform (.http interface gateway.status request) gateway.plant
  | stop => exact .refl _

/-- Whatever happens at a gateway, its plant is left by some activities. -/
theorem leadsTo_run (gateway : Gateway) (events : List GatewayEvent) :
    gateway.plant.LeadsTo (gateway.run events).plant := by
  induction events generalizing gateway with
  | nil => exact .refl _
  | cons event rest ih => exact (gateway.leadsTo_step event).trans (ih _)

end Gateway

end RegisterGateway
