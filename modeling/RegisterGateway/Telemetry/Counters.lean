/-!
# Counters

Sixteen counters of what the gateway has done, each modulo 2^64, and the events that
advance them. A batch of ingested values advances two counters whichever way it ends.
-/

namespace RegisterGateway

/-- The counters of a gateway. -/
structure Counters where
  restRequests : UInt64 := 0
  restReads : UInt64 := 0
  restIngest : UInt64 := 0
  restRejected : UInt64 := 0
  restUnauthorized : UInt64 := 0
  ingestBatches : UInt64 := 0
  ingestWritten : UInt64 := 0
  ingestRejected : UInt64 := 0
  modbusConnections : UInt64 := 0
  modbusConnectionsRefused : UInt64 := 0
  modbusRequests : UInt64 := 0
  modbusExceptions : UInt64 := 0
  rawIngestFrames : UInt64 := 0
  rawIngestRejected : UInt64 := 0
  mqttMessages : UInt64 := 0
  mqttRejected : UInt64 := 0
  deriving DecidableEq, Repr

/-- What is counted. -/
inductive CountedEvent where
  | restRequest
  | restRead
  | restIngest
  | restRejected
  | restUnauthorized
  | batchWritten (count : Nat)
  | batchRejected
  | modbusConnection
  | modbusConnectionRefused
  | modbusRequest
  | modbusException
  | rawIngestFrame
  | rawIngestRejected
  | mqttMessage
  | mqttRejected
  deriving DecidableEq, Repr

namespace Counters

def record (counters : Counters) : CountedEvent → Counters
  | .restRequest => { counters with restRequests := counters.restRequests + 1 }
  | .restRead => { counters with restReads := counters.restReads + 1 }
  | .restIngest => { counters with restIngest := counters.restIngest + 1 }
  | .restRejected => { counters with restRejected := counters.restRejected + 1 }
  | .restUnauthorized => { counters with restUnauthorized := counters.restUnauthorized + 1 }
  | .batchWritten count =>
      { counters with
        ingestBatches := counters.ingestBatches + 1
        ingestWritten := counters.ingestWritten + UInt64.ofNat count }
  | .batchRejected =>
      { counters with
        ingestBatches := counters.ingestBatches + 1
        ingestRejected := counters.ingestRejected + 1 }
  | .modbusConnection => { counters with modbusConnections := counters.modbusConnections + 1 }
  | .modbusConnectionRefused =>
      { counters with modbusConnectionsRefused := counters.modbusConnectionsRefused + 1 }
  | .modbusRequest => { counters with modbusRequests := counters.modbusRequests + 1 }
  | .modbusException => { counters with modbusExceptions := counters.modbusExceptions + 1 }
  | .rawIngestFrame => { counters with rawIngestFrames := counters.rawIngestFrames + 1 }
  | .rawIngestRejected => { counters with rawIngestRejected := counters.rawIngestRejected + 1 }
  | .mqttMessage => { counters with mqttMessages := counters.mqttMessages + 1 }
  | .mqttRejected => { counters with mqttRejected := counters.mqttRejected + 1 }

def recordAll (counters : Counters) (events : List CountedEvent) : Counters :=
  events.foldl record counters

theorem recordAll_append (counters : Counters) (earlier later : List CountedEvent) :
    counters.recordAll (earlier ++ later) = (counters.recordAll earlier).recordAll later :=
  List.foldl_append

end Counters

end RegisterGateway
