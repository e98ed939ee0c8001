import RegisterGateway.Register.Registry
import RegisterGateway.Telemetry.Counters

/-!
# The state behind all entrances

Every entrance of a gateway acts on the same memories and advances the same counters.
-/

namespace RegisterGateway

/-- The memories of a gateway and its counters. -/
structure Plant where
  registry : Registry
  counters : Counters := {}
  deriving DecidableEq

namespace Plant

/-- The plant after something has been counted. -/
def record (plant : Plant) (event : CountedEvent) : Plant :=
  { plant with counters := plant.counters.record event }

/-- The plant with other memories. -/
def withRegistry (plant : Plant) (registry : Registry) : Plant :=
  { plant with registry := registry }

@[simp] theorem registry_record (plant : Plant) (event : CountedEvent) :
    (plant.record event).registry = plant.registry := rfl

@[simp] theorem counters_withRegistry (plant : Plant) (registry : Registry) :
    (plant.withRegistry registry).counters = plant.counters := rfl

end Plant

end RegisterGateway
