import Mathlib
import RegisterGateway.Telemetry.Counters

/-!
# What counters add up to

Every event adds a fixed amount to every counter. So what a counter shows after some events is the
total of their amounts, modulo 2^64, whatever the order of the events.
-/

namespace RegisterGateway

/-- The name of a counter. -/
inductive Counter where
  | restRequests
  | restReads
  | restIngest
  | restRejected
  | restUnauthorized
  | ingestBatches
  | ingestWritten
  | ingestRejected
  | modbusConnections
  | modbusConnectionsRefused
  | modbusRequests
  | modbusExceptions
  | rawIngestFrames
  | rawIngestRejected
  | mqttMessages
  | mqttRejected
  deriving DecidableEq, Repr

namespace Counters

def value (counters : Counters) : Counter → UInt64
  | .restRequests => counters.restRequests
  | .restReads => counters.restReads
  | .restIngest => counters.restIngest
  | .restRejected => counters.restRejected
  | .restUnauthorized => counters.restUnauthorized
  | .ingestBatches => counters.ingestBatches
  | .ingestWritten => counters.ingestWritten
  | .ingestRejected => counters.ingestRejected
  | .modbusConnections => counters.modbusConnections
  | .modbusConnectionsRefused => counters.modbusConnectionsRefused
  | .modbusRequests => counters.modbusRequests
  | .modbusExceptions => counters.modbusExceptions
  | .rawIngestFrames => counters.rawIngestFrames
  | .rawIngestRejected => counters.rawIngestRejected
  | .mqttMessages => counters.mqttMessages
  | .mqttRejected => counters.mqttRejected

/-- What the counters show, as numbers. -/
def shown (counters : Counters) (counter : Counter) : Nat :=
  (counters.value counter).toNat

end Counters

/-- How much an event adds to a counter. -/
def CountedEvent.amount : CountedEvent → Counter → Nat
  | .restRequest, .restRequests => 1
  | .restRead, .restReads => 1
  | .restIngest, .restIngest => 1
  | .restRejected, .restRejected => 1
  | .restUnauthorized, .restUnauthorized => 1
  | .batchWritten _, .ingestBatches => 1
  | .batchWritten count, .ingestWritten => count
  | .batchRejected, .ingestBatches => 1
  | .batchRejected, .ingestRejected => 1
  | .modbusConnection, .modbusConnections => 1
  | .modbusConnectionRefused, .modbusConnectionsRefused => 1
  | .modbusRequest, .modbusRequests => 1
  | .modbusException, .modbusExceptions => 1
  | .rawIngestFrame, .rawIngestFrames => 1
  | .rawIngestRejected, .rawIngestRejected => 1
  | .mqttMessage, .mqttMessages => 1
  | .mqttRejected, .mqttRejected => 1
  | _, _ => 0

/-- How much some events add to a counter. -/
def total (events : List CountedEvent) (counter : Counter) : Nat :=
  (events.map fun event => event.amount counter).sum

@[simp] theorem total_nil (counter : Counter) : total [] counter = 0 := rfl

@[simp] theorem total_cons (event : CountedEvent) (rest : List CountedEvent)
    (counter : Counter) :
    total (event :: rest) counter = event.amount counter + total rest counter := rfl

@[simp] theorem total_append (earlier later : List CountedEvent) (counter : Counter) :
    total (earlier ++ later) counter = total earlier counter + total later counter := by
  rw [total, List.map_append, List.sum_append]
  rfl

namespace Counters

theorem value_record (counters : Counters) (event : CountedEvent) (counter : Counter) :
    (counters.record event).value counter =
      counters.value counter + UInt64.ofNat (event.amount counter) := by
  cases event <;> cases counter <;>
    simp only [record, value, CountedEvent.amount, UInt64.reduceOfNat, UInt64.add_zero]

theorem value_recordAll (counters : Counters) (events : List CountedEvent) (counter : Counter) :
    (counters.recordAll events).value counter =
      counters.value counter + UInt64.ofNat (total events counter) := by
  induction events generalizing counters with
  | nil => simp [recordAll]
  | cons event rest ih =>
      rw [recordAll, List.foldl_cons, ← recordAll, ih, value_record, total_cons, UInt64.ofNat_add,
        UInt64.add_assoc]

/-- Counters that start from zero show the totals, as long as these are no larger than they can
show. -/
theorem shown_recordAll {events : List CountedEvent} {counter : Counter}
    (small : total events counter < 2 ^ 64) :
    (recordAll {} events).shown counter = total events counter := by
  have zero : ({} : Counters).value counter = 0 := by
    cases counter <;> rfl
  rw [shown, value_recordAll, zero, UInt64.zero_add, UInt64.toNat_ofNat_of_lt' small]

end Counters

end RegisterGateway
