import Mathlib
import RegisterGateway.Proofs.Rest.Presetting

/-!
# What the status of a broker session tells

A connection stands if it has been acknowledged and subscribed to, and has not failed since. The
status of a session tells this as long as every subscription succeeds. A subscription that fails
ends the session, and the status goes on telling of a connection.
-/

namespace RegisterGateway

namespace Mqtt

/-! ## Connections -/

/-- Whether an event decides anew if the connection stands. -/
def Event.isDecisive : Event → Bool
  | .acknowledged _ | .failure => true
  | .message _ | .other => false

/-- The connection stands: the latest acknowledgement is more recent than the latest failure, and
has been followed by a subscription. -/
def Stands (events : List Event) : Prop :=
  (events.filter Event.isDecisive).getLast? = some (.acknowledged true)

theorem not_stands_nil : ¬ Stands [] := nofun

/-- The latest event decides, unless it is not decisive. -/
theorem stands_concat_iff {events : List Event} {event : Event} :
    Stands (events ++ [event]) ↔
      if event.isDecisive then event = .acknowledged true else Stands events := by
  unfold Stands
  rw [List.filter_append]
  cases decisive : event.isDecisive with
  | true => simp [decisive]
  | false => simp [decisive]

/-! ## Sessions -/

/-- What has become of a session with some events. -/
structure Session.Follows (session : Session) (events : List Event) : Prop where
  /-- It runs until a subscription fails. -/
  running : session.running = true ↔ .acknowledged false ∉ events
  /-- It counts as connected while the connection stands, and when a subscription has failed. -/
  connected : session.connected = true ↔ .acknowledged false ∈ events ∨ Stands events

theorem Session.Follows.start : Session.Follows {} [] where
  running := by simp
  connected := by simp [not_stands_nil]

theorem Session.Follows.step {session : Session} {events : List Event}
    (follows : session.Follows events) (plant : Plant) (event : Event) :
    (session.step plant event).1.Follows (events ++ [event]) := by
  obtain ⟨running, connected⟩ := follows
  by_cases failed : .acknowledged false ∈ events
  · -- The session has ended, and no event makes a difference any more.
    have ended : session.running = false := by simpa [failed] using running
    have unchanged : (session.step plant event).1 = session := by
      simp only [Session.step, ended, Bool.false_eq_true, if_false]
    rw [unchanged]
    exact ⟨by simp [ended, failed], by simp [connected, failed]⟩
  · have runs : session.running = true := running.2 failed
    constructor
    · cases event with
      | acknowledged subscribed => cases subscribed <;> simp [Session.step, runs, failed]
      | message | other | failure => simp [Session.step, runs, failed]
    · rw [stands_concat_iff]
      cases event with
      | acknowledged subscribed =>
          cases subscribed <;> simp [Session.step, runs, failed, Event.isDecisive]
      | message | other =>
          simp [Session.step, runs, failed, Event.isDecisive, connected]
      | failure => simp [Session.step, runs, failed, Event.isDecisive]

/-- A new session after some events, and the plant that it leaves. -/
def Session.conduct (events : List Event) (plant : Plant) : Session × Plant :=
  events.foldl (fun state event => state.1.step state.2 event) ({}, plant)

theorem Session.follows_conduct (events : List Event) (plant : Plant) :
    (conduct events plant).1.Follows events := by
  induction events using List.reverseRecOn with
  | nil => exact .start
  | append_singleton events event ih =>
      rw [conduct, List.foldl_append]
      exact ih.step _ event

/-- The status is true to the connection after every event, exactly if no subscription fails. -/
theorem status_truthful_iff (events : List Event) (plant : Plant) :
    (∀ earlier later, events = earlier ++ later →
      ((Session.conduct earlier plant).1.connected = true ↔
        (Session.conduct earlier plant).1.running = true ∧ Stands earlier)) ↔
      .acknowledged false ∉ events := by
  constructor
  · intro truthful failed
    have follows := Session.follows_conduct events plant
    have runs := ((truthful events [] (List.append_nil events).symm).1
      (follows.connected.2 (.inl failed))).1
    exact follows.running.1 runs failed
  · rintro subscribed earlier later rfl
    have follows := Session.follows_conduct earlier plant
    have unfailed : .acknowledged false ∉ earlier := fun failed =>
      subscribed (List.mem_append_left later failed)
    rw [follows.connected, follows.running]
    simp [unfailed]

/-- A session whose first subscription fails has ended, and still counts as connected. -/
theorem refused_subscription_counts_as_connected :
    (Session.conduct [.acknowledged false] ⟨⟨.empty, ""⟩, {}⟩).1 =
        { running := false, connected := true } ∧
      ¬ ((Session.conduct [.acknowledged false] ⟨⟨.empty, ""⟩, {}⟩).1.connected = true ↔
        (Session.conduct [.acknowledged false] ⟨⟨.empty, ""⟩, {}⟩).1.running = true ∧
          Stands [.acknowledged false]) := by
  have ended : (Session.conduct [.acknowledged false] ⟨⟨.empty, ""⟩, {}⟩).1 =
      { running := false, connected := true } := rfl
  refine ⟨ended, fun truthful => ?_⟩
  rw [ended] at truthful
  exact absurd (truthful.1 rfl).1 Bool.false_ne_true

end Mqtt

/-! ## Sessions of a gateway -/

/-- The event of the broker session, if what happens at a gateway is one. -/
def GatewayEvent.broker? : GatewayEvent → Option Mqtt.Event
  | .broker event => some event
  | .modbus .. | .rawIngest _ | .http _ | .stop => none

namespace Gateway

/-- What holds of a gateway that has not stopped, after some events of its broker session: the
session has followed them, and the diagnostics tell of it. -/
structure Reports (gateway : Gateway) (settings : Mqtt.Settings) (events : List Mqtt.Event) :
    Prop where
  goesOn : gateway.isStopped = false
  session : ∃ session : Mqtt.Session, session.Follows events ∧
    gateway.subscription = some ⟨settings, session⟩

variable {gateway : Gateway} {settings : Mqtt.Settings} {events : List Mqtt.Event}

/-- What happens at other entrances leaves the broker session alone. -/
theorem Reports.of_other (reports : gateway.Reports settings events) {after : Gateway}
    (sameSession : after.subscription = gateway.subscription)
    (sameStop : after.isStopped = gateway.isStopped) : after.Reports settings events where
  goesOn := sameStop.trans reports.goesOn
  session := by
    rw [sameSession]
    exact reports.session

theorem Reports.step (reports : gateway.Reports settings events) {event : GatewayEvent}
    (goesOn : event ≠ .stop) :
    (gateway.step event).2.Reports settings (events ++ event.broker?.toList) := by
  cases event with
  | stop => contradiction
  | broker event =>
      obtain ⟨session, follows, present⟩ := reports.session
      have stepped : (gateway.step (.broker event)).2 =
          { gateway with
            subscription := some ⟨settings, (session.step gateway.plant event).1⟩
            plant := (session.step gateway.plant event).2 } := by
        simp only [Gateway.step, broker, present, reports.goesOn, Bool.false_eq_true, if_false]
      rw [stepped]
      exact ⟨reports.goesOn, _, follows.step gateway.plant event, rfl⟩
  | modbus port event =>
      rw [GatewayEvent.broker?, Option.toList_none, List.append_nil]
      apply reports.of_other <;>
      · simp only [Gateway.step, modbus]
        split <;> rfl
  | rawIngest event =>
      rw [GatewayEvent.broker?, Option.toList_none, List.append_nil]
      apply reports.of_other <;>
      · simp only [Gateway.step, ingest]
        split <;> rfl
  | http request =>
      rw [GatewayEvent.broker?, Option.toList_none, List.append_nil]
      rcases gateway.http_cases request with unheard | ⟨interface, -, answered⟩
      · exact reports.of_other (by rw [Gateway.step, unheard]) (by rw [Gateway.step, unheard])
      · exact reports.of_other (by rw [Gateway.step, answered]) (by rw [Gateway.step, answered])

/-- Until a gateway stops, its diagnostics tell what the events of the broker session come to,
whatever happens at the other entrances. -/
theorem reports_run (starts : gateway.Reports settings events) {happened : List GatewayEvent}
    (goesOn : .stop ∉ happened) :
    (gateway.run happened).Reports settings
      (events ++ happened.filterMap GatewayEvent.broker?) := by
  induction happened generalizing gateway events with
  | nil => simpa [run] using starts
  | cons event rest ih =>
      obtain ⟨notStop, later⟩ : .stop ≠ event ∧ .stop ∉ rest := by
        simpa only [List.mem_cons, not_or] using goesOn
      have reports := ih (starts.step notStop.symm) later
      have happenedFirst : (event :: rest).filterMap GatewayEvent.broker? =
          event.broker?.toList ++ rest.filterMap GatewayEvent.broker? := by
        cases isBroker : event.broker? <;> simp [isBroker]
      rw [happenedFirst, ← List.append_assoc]
      exact reports

/-- The diagnostics of a gateway that has not stopped tell of a connection exactly if it stands, or
a subscription has failed. -/
theorem status_run (starts : gateway.Reports settings []) {happened : List GatewayEvent}
    (goesOn : .stop ∉ happened) :
    ∃ connected, (gateway.run happened).status = some { settings.initialStatus with connected } ∧
      (connected = true ↔ .acknowledged false ∈ happened.filterMap GatewayEvent.broker? ∨
        Mqtt.Stands (happened.filterMap GatewayEvent.broker?)) := by
  obtain ⟨session, follows, present⟩ := (reports_run starts goesOn).session
  exact ⟨session.connected, by rw [Gateway.status, present]; rfl, follows.connected⟩

end Gateway

end RegisterGateway
