import RegisterGateway.Config.Model

/-!
# The factory configuration

The configuration that is written where none is found: one memory, which is the default one
and to which unit 1 is routed, and every other setting at its default.
-/

namespace RegisterGateway.Config

def factoryMemory : MemorySettings where
  isDefault := true
  coils := { size := 1024 }
  discreteInputs := { size := 1024 }
  holdingRegisters := { size := 4096 }
  inputRegisters := { size := 4096 }

def factory : Config where
  memories := .ofList [("memory1", factoryMemory)]
  routing := .ofList [(1, "memory1")]

/-- The factory configuration as it is written to a file. -/
def factoryText : String :=
  "memory:
  memories:
    memory1:
      default: true
      coils:
        start: 0
        size: 1024
      discrete_inputs:
        start: 0
        size: 1024
      holding_registers:
        start: 0
        size: 4096
      input_registers:
        start: 0
        size: 4096
routing:
  unit_id_map:
    1: memory1
rest:
  enabled: false
  address: 127.0.0.1:8080
  auth_enabled: true
  tokens: []
  enable_ingest: true
  enable_read: true
  enable_diagnostics: true
mqtt:
  enabled: false
  broker: tcp://127.0.0.1:1883
  client_id: ''
  topic: mma/ingest
raw_ingest:
  enabled: false
  listen: 0.0.0.0:5021
  max_packet_bytes: 4096
  read_timeout_ms: 5000
"

end RegisterGateway.Config
