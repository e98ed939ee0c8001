import RegisterGateway.Proofs.Telemetry.Activity
import RegisterGateway.Proofs.Telemetry.Totals

/-!
# The balance of the counters

Every activity advances several counters at once, at different entrances different ones, and in
such amounts that their balance is kept. So the counters are in balance after every completed
activity, as long as none of them has gone round.
-/

namespace RegisterGateway

/-! ## Balanced amounts -/

namespace Effect

/-- The number of values that a command has written. -/
@[simp] def written : Effect → Nat
  | .http (some (_, write)) | .message (some (_, write)) => write.values.length
  | _ => 0

@[simp] def isHttp : Effect → Bool
  | .http _ => true
  | _ => false

@[simp] def isMessage : Effect → Bool
  | .message _ => true
  | _ => false

@[simp] def isExchange : Effect → Bool
  | .exchange _ => true
  | _ => false

/-- Whether a frame has been applied, or else has been rejected. -/
@[simp] def isFrame (applied : Bool) : Effect → Bool
  | .frame isApplied => isApplied == applied
  | _ => false

/-- Whether a peer has been admitted, or else has been refused. -/
@[simp] def isArrival (admitted : Bool) : Effect → Bool
  | .arrival isAdmitted => isAdmitted == admitted
  | _ => false

end Effect

/-- What holds of the amounts that the counters show after some activities, given what has come of
these. -/
structure InBalance (amount : Counter → Nat) (effects : List Effect) : Prop where
  /-- A batch is refused, or accepted at one of the two entrances for commands. -/
  batches : amount .ingestBatches =
    amount .ingestRejected + amount .restIngest + (amount .mqttMessages - amount .mqttRejected)
  written : amount .ingestWritten = (effects.map Effect.written).sum
  /-- The entrance of a refused batch rejects it as well. -/
  refused : amount .ingestRejected ≤ amount .restRejected + amount .mqttRejected
  rejected : amount .mqttRejected ≤ amount .mqttMessages
  /-- A request over HTTP comes to one thing at most. -/
  outcomes : amount .restReads + amount .restIngest + amount .restRejected +
    amount .restUnauthorized ≤ amount .restRequests
  exceptions : amount .modbusExceptions ≤ amount .modbusRequests
  requests : amount .restRequests = effects.countP Effect.isHttp
  messages : amount .mqttMessages = effects.countP Effect.isMessage
  exchanges : amount .modbusRequests = effects.countP Effect.isExchange
  frames : amount .rawIngestFrames = effects.countP (Effect.isFrame true)
  rejections : amount .rawIngestRejected = effects.countP (Effect.isFrame false)
  connections : amount .modbusConnections = effects.countP (Effect.isArrival true)
  refusals : amount .modbusConnectionsRefused = effects.countP (Effect.isArrival false)

namespace InBalance

theorem nil : InBalance (total []) [] := by
  constructor <;> rfl

/-- Balanced amounts add up to balanced amounts. -/
theorem append {earlier later : List CountedEvent} {before after : List Effect}
    (first : InBalance (total earlier) before) (second : InBalance (total later) after) :
    InBalance (total (earlier ++ later)) (before ++ after) where
  batches := by
    have := first.batches
    have := second.batches
    have := first.rejected
    have := second.rejected
    simp only [total_append]
    omega
  written := by
    rw [total_append, first.written, second.written, List.map_append, List.sum_append]
  refused := by
    have := first.refused
    have := second.refused
    simp only [total_append]
    omega
  rejected := by
    simp only [total_append]
    exact Nat.add_le_add first.rejected second.rejected
  outcomes := by
    have := first.outcomes
    have := second.outcomes
    simp only [total_append]
    omega
  exceptions := by
    simp only [total_append]
    exact Nat.add_le_add first.exceptions second.exceptions
  requests := by rw [total_append, first.requests, second.requests, List.countP_append]
  messages := by rw [total_append, first.messages, second.messages, List.countP_append]
  exchanges := by rw [total_append, first.exchanges, second.exchanges, List.countP_append]
  frames := by rw [total_append, first.frames, second.frames, List.countP_append]
  rejections := by rw [total_append, first.rejections, second.rejections, List.countP_append]
  connections := by rw [total_append, first.connections, second.connections, List.countP_append]
  refusals := by rw [total_append, first.refusals, second.refusals, List.countP_append]

end InBalance

/-- No activity is both a request over HTTP and a message. -/
theorem countP_commands_le_length (effects : List Effect) :
    effects.countP Effect.isHttp + effects.countP Effect.isMessage ≤ effects.length := by
  induction effects with
  | nil => exact Nat.le_refl 0
  | cons effect rest ih =>
      simp only [List.countP_cons, List.length_cons]
      cases effect <;> simp only [Effect.isHttp, Effect.isMessage, if_true] <;> grind

/-- Apart from the values, no counter counts more than there are activities. -/
theorem InBalance.le_length {amount : Counter → Nat} {effects : List Effect}
    (balance : InBalance amount effects) {counter : Counter} (other : counter ≠ .ingestWritten) :
    amount counter ≤ effects.length := by
  have commands := countP_commands_le_length effects
  have ofKind (kind : Effect → Bool) : effects.countP kind ≤ effects.length :=
    List.countP_le_length
  obtain ⟨batches, -, refused, rejected, outcomes, exceptions, requests, messages, exchanges,
    frames, rejections, connections, refusals⟩ := balance
  cases counter with
  | ingestWritten => contradiction
  | modbusRequests => exact exchanges ▸ ofKind _
  | modbusExceptions => exact exceptions.trans (exchanges ▸ ofKind _)
  | rawIngestFrames => exact frames ▸ ofKind _
  | rawIngestRejected => exact rejections ▸ ofKind _
  | modbusConnections => exact connections ▸ ofKind _
  | modbusConnectionsRefused => exact refusals ▸ ofKind _
  | restRequests | restReads | restIngest | restRejected | restUnauthorized | ingestBatches
  | ingestRejected | mqttMessages | mqttRejected => omega

/-! ## One activity -/

theorem inBalance_http {made : Option (String × AreaWrite)} {events : List CountedEvent}
    (counts : Rest.Counts made events) :
    InBalance (total (.restRequest :: events)) [.http made] := by
  cases counts with
  | command batch => cases batch <;> constructor <;> simp [CountedEvent.amount]
  | _ => constructor <;> simp [CountedEvent.amount]

theorem inBalance_message {made : Option (String × AreaWrite)} {events : List CountedEvent}
    (counts : Mqtt.Counts made events) :
    InBalance (total (.mqttMessage :: events)) [.message made] := by
  cases counts with
  | command batch => cases batch <;> constructor <;> simp [CountedEvent.amount]
  | unreadable => constructor <;> simp [CountedEvent.amount]

theorem inBalance_exchange (isException : Bool) :
    InBalance (total (.modbusRequest :: if isException then [.modbusException] else []))
      [.exchange isException] := by
  cases isException <;> constructor <;> simp [CountedEvent.amount]

theorem inBalance_frame (applied : Bool) :
    InBalance (total [if applied then .rawIngestFrame else .rawIngestRejected])
      [.frame applied] := by
  cases applied <;> constructor <;> simp [CountedEvent.amount]

theorem inBalance_arrival (admitted : Bool) :
    InBalance (total [if admitted then .modbusConnection else .modbusConnectionRefused])
      [.arrival admitted] := by
  cases admitted <;> constructor <;> simp [CountedEvent.amount]

/-- What is counted for an activity is in balance. -/
theorem Activity.balanced (activity : Activity) (plant : Plant) :
    ∃ events, (activity.perform plant).2.counters = plant.counters.recordAll events ∧
      InBalance (total events) [(activity.perform plant).1] := by
  cases activity with
  | http interface status request =>
      obtain ⟨events, counts, counted⟩ := Rest.counts_handle interface status request plant
      exact ⟨_, counted, inBalance_http counts⟩
  | message payload =>
      obtain ⟨events, counts, counted⟩ := Mqtt.counts_receive payload plant
      exact ⟨_, counted, inBalance_message counts⟩
  | exchange resolver header body =>
      exact ⟨_, Modbus.counts_respond resolver header body plant, inBalance_exchange _⟩
  | frame sent =>
      simp only [perform]
      cases RawIngest.apply plant.registry sent with
      | ok registry => exact ⟨_, rfl, inBalance_frame true⟩
      | error reason => exact ⟨_, rfl, inBalance_frame false⟩
  | misframed => exact ⟨_, rfl, inBalance_frame false⟩
  | arrival admitted =>
      cases admitted with
      | true => exact ⟨_, rfl, inBalance_arrival true⟩
      | false => exact ⟨_, rfl, inBalance_arrival false⟩

/-! ## Many activities -/

/-- What is counted for some activities is in balance. -/
theorem Plant.balanced (plant : Plant) (activities : List Activity) :
    ∃ events, (plant.after activities).counters = plant.counters.recordAll events ∧
      InBalance (total events) (plant.effects activities) := by
  induction activities generalizing plant with
  | nil => exact ⟨[], rfl, .nil⟩
  | cons activity rest ih =>
      obtain ⟨first, counted, balance⟩ := activity.balanced plant
      obtain ⟨later, countedLater, balanceLater⟩ := ih (activity.perform plant).2
      refine ⟨first ++ later, ?_, balance.append balanceLater⟩
      rw [after_cons, countedLater, counted, Counters.recordAll_append]

/-- Amounts in balance are small if there are few activities and few values. -/
theorem InBalance.small {amount : Counter → Nat} {effects : List Effect}
    (balance : InBalance amount effects) (few : effects.length < 2 ^ 64)
    (fewValues : (effects.map Effect.written).sum < 2 ^ 64) (counter : Counter) :
    amount counter < 2 ^ 64 := by
  by_cases ofValues : counter = .ingestWritten
  · subst ofValues
    exact balance.written ▸ fewValues
  · exact (balance.le_length ofValues).trans_lt few

/-- Whatever happens at a gateway is made of activities. From fresh counters on, the counters are in
balance whenever an activity has been completed, and none of them ever decreases. -/
theorem counters_in_balance {gateway : Gateway} (fresh : gateway.plant.counters = {}) :
    (∀ events, gateway.plant.LeadsTo (gateway.run events).plant) ∧
      ∀ activities : List Activity, activities.length < 2 ^ 64 →
        ((gateway.plant.effects activities).map Effect.written).sum < 2 ^ 64 →
        ∀ earlier later, activities = earlier ++ later →
          InBalance (gateway.plant.after earlier).counters.shown
              (gateway.plant.effects earlier) ∧
            ∀ counter, (gateway.plant.after earlier).counters.shown counter ≤
              (gateway.plant.after activities).counters.shown counter := by
  refine ⟨gateway.leadsTo_run, ?_⟩
  generalize gateway.plant = plant at fresh ⊢
  rintro _ few fewValues earlier later rfl
  obtain ⟨first, counted, balance⟩ := plant.balanced earlier
  obtain ⟨second, countedLater, balanceLater⟩ := (plant.after earlier).balanced later
  rw [← Plant.after_append, counted, fresh, ← Counters.recordAll_append] at countedLater
  rw [fresh] at counted
  have whole := balance.append balanceLater
  rw [← Plant.effects_append] at whole
  have small := whole.small (plant.length_effects _ ▸ few) fewValues
  have shownLater (counter : Counter) : (plant.after (earlier ++ later)).counters.shown counter =
      total (first ++ second) counter := by
    rw [countedLater, Counters.shown_recordAll (small counter)]
  have shown : (plant.after earlier).counters.shown = total first := by
    funext counter
    have smaller := small counter
    rw [total_append] at smaller
    rw [counted, Counters.shown_recordAll (Nat.lt_of_add_right_lt smaller)]
  refine ⟨shown ▸ balance, fun counter => ?_⟩
  rw [shown, shownLater, total_append]
  exact Nat.le_add_right _ _

/-- Two discrete inputs. -/
def twoInputs : Plant :=
  ⟨⟨.ofList [("1", .ofLayout ⟨0, 2, 0, 0⟩ none)], "1"⟩, {}⟩

/-- A message with two discrete inputs, the first of them at an address. -/
def twoInputsAt (address : String) : Activity :=
  .message (Json.bytesOf ("[\"1\",\"discrete_inputs\"," ++ address ++ ",[0,1]]"))

/-- Of three messages the first one is accepted, the second one is refused, and the third one is
no command. -/
theorem three_messages_balance :
    (twoInputs.after [twoInputsAt "0", twoInputsAt "1", .message []]).counters =
        { ingestBatches := 2, ingestWritten := 2, ingestRejected := 1, mqttMessages := 3,
          mqttRejected := 2 } ∧
      InBalance (twoInputs.after [twoInputsAt "0", twoInputsAt "1"]).counters.shown
        (twoInputs.effects [twoInputsAt "0", twoInputsAt "1"]) ∧
      ∀ counter, (twoInputs.after [twoInputsAt "0", twoInputsAt "1"]).counters.shown counter ≤
        (twoInputs.after [twoInputsAt "0", twoInputsAt "1", .message []]).counters.shown
          counter := by
  refine ⟨by decide +kernel, ?_⟩
  have fresh : ({ plant := twoInputs } : Gateway).plant.counters = {} := rfl
  obtain ⟨-, balance⟩ := counters_in_balance fresh
  exact balance [twoInputsAt "0", twoInputsAt "1", .message []] (by decide) (by decide +kernel)
    [twoInputsAt "0", twoInputsAt "1"] [.message []] rfl

end RegisterGateway
