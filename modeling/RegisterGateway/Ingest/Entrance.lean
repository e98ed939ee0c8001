import RegisterGateway.Ingest.Service
import RegisterGateway.Plant

/-!
# Ingest commands at an entrance

Commands arrive over HTTP and from a broker. Either way the outcome is counted as a batch,
and the entrance adds events of its own.
-/

namespace RegisterGateway

def Plant.recordAll (plant : Plant) (events : List CountedEvent) : Plant :=
  { plant with counters := plant.counters.recordAll events }

/-- Carries out a command and counts the outcome: the batch, and what the entrance counts for
a success or for a refusal. A refused command leaves the memories alone. -/
def Plant.ingest (plant : Plant) (accepted refused : List CountedEvent)
    (command : Ingest.Command) : Except Ingest.IngestError Nat × Plant :=
  match command.ingest plant.registry with
  | .ok (written, registry) =>
      (.ok written, (plant.withRegistry registry).recordAll (.batchWritten written :: accepted))
  | .error error => (.error error, plant.recordAll (.batchRejected :: refused))

end RegisterGateway
