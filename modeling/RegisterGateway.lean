import RegisterGateway.Access.Address
import RegisterGateway.Access.IpFilter
import RegisterGateway.Access.Policy
import RegisterGateway.Access.PolicyForm
import RegisterGateway.Access.PolicyNode
import RegisterGateway.Access.Rules
import RegisterGateway.Access.RulesForm
import RegisterGateway.Access.Tokens
import RegisterGateway.Config.Decode
import RegisterGateway.Config.Factory
import RegisterGateway.Config.Files
import RegisterGateway.Config.Loading
import RegisterGateway.Config.Memories
import RegisterGateway.Config.Model
import RegisterGateway.Config.Validity
import RegisterGateway.Document.AliasLimit
import RegisterGateway.Document.Datum
import RegisterGateway.Document.Decode
import RegisterGateway.Document.DecodeError
import RegisterGateway.Document.Node
import RegisterGateway.Document.Plain
import RegisterGateway.Document.Scalar
import RegisterGateway.Document.Source
import RegisterGateway.Document.Tag
import RegisterGateway.Document.Token
import RegisterGateway.Gateway.Running
import RegisterGateway.Gateway.Startup
import RegisterGateway.Ingest.Command
import RegisterGateway.Ingest.Entrance
import RegisterGateway.Ingest.Service
import RegisterGateway.Json.Token
import RegisterGateway.Json.Value
import RegisterGateway.Main
import RegisterGateway.Modbus.Function
import RegisterGateway.Modbus.Header
import RegisterGateway.Modbus.Listener
import RegisterGateway.Modbus.Request
import RegisterGateway.Modbus.Server
import RegisterGateway.Modbus.Stream
import RegisterGateway.Mqtt.Broker
import RegisterGateway.Mqtt.Session
import RegisterGateway.Net.Connections
import RegisterGateway.Net.Serving
import RegisterGateway.Ordered.KeySet
import RegisterGateway.Ordered.Table
import RegisterGateway.Plant
import RegisterGateway.Proofs.Access.Filtering
import RegisterGateway.Proofs.Access.Resolution
import RegisterGateway.Proofs.Access.WrittenPolicy
import RegisterGateway.Proofs.Batches
import RegisterGateway.Proofs.Config.Documented
import RegisterGateway.Proofs.Config.Memories
import RegisterGateway.Proofs.Config.Overrides
import RegisterGateway.Proofs.Config.Starting
import RegisterGateway.Proofs.Config.Validity
import RegisterGateway.Proofs.Confinement
import RegisterGateway.Proofs.Document.Data
import RegisterGateway.Proofs.Gate
import RegisterGateway.Proofs.History
import RegisterGateway.Proofs.Independence
import RegisterGateway.Proofs.Ingest.Alike
import RegisterGateway.Proofs.Ingest.Interleaving
import RegisterGateway.Proofs.Ingest.Verdict
import RegisterGateway.Proofs.Ingest.Writes
import RegisterGateway.Proofs.Ingest.WrittenCommand
import RegisterGateway.Proofs.Json.Grammar
import RegisterGateway.Proofs.Json.Lexemes
import RegisterGateway.Proofs.Json.Members
import RegisterGateway.Proofs.Json.Values
import RegisterGateway.Proofs.Modbus.Admission
import RegisterGateway.Proofs.Modbus.Answer
import RegisterGateway.Proofs.Modbus.Conformance
import RegisterGateway.Proofs.Modbus.Connection
import RegisterGateway.Proofs.Modbus.Encoding
import RegisterGateway.Proofs.Modbus.Framing
import RegisterGateway.Proofs.Modbus.Grammar
import RegisterGateway.Proofs.Modbus.Interleaving
import RegisterGateway.Proofs.Modbus.Isolation
import RegisterGateway.Proofs.Modbus.Listening
import RegisterGateway.Proofs.Modbus.Responses
import RegisterGateway.Proofs.Mqtt.BrokerAddress
import RegisterGateway.Proofs.Mqtt.Status
import RegisterGateway.Proofs.Net.Numbers
import RegisterGateway.Proofs.Net.Streams
import RegisterGateway.Proofs.Operation
import RegisterGateway.Proofs.PathAgreement
import RegisterGateway.Proofs.PortIsolation
import RegisterGateway.Proofs.RawIngest.Arrival
import RegisterGateway.Proofs.RawIngest.Conversation
import RegisterGateway.Proofs.RawIngest.Framing
import RegisterGateway.Proofs.Register.Apart
import RegisterGateway.Proofs.Register.Cells
import RegisterGateway.Proofs.Register.LastWrite
import RegisterGateway.Proofs.Register.Pieces
import RegisterGateway.Proofs.Register.Writes
import RegisterGateway.Proofs.Rest.Handling
import RegisterGateway.Proofs.Rest.Presetting
import RegisterGateway.Proofs.Rest.Reading
import RegisterGateway.Proofs.Rest.Tokens
import RegisterGateway.Proofs.Results
import RegisterGateway.Proofs.Sequence
import RegisterGateway.Proofs.Telemetry.Activity
import RegisterGateway.Proofs.Telemetry.Balance
import RegisterGateway.Proofs.Telemetry.Entrances
import RegisterGateway.Proofs.Telemetry.Totals
import RegisterGateway.Proofs.Text.Splitting
import RegisterGateway.Proofs.Text.Trimming
import RegisterGateway.Proofs.Wire.Carrying
import RegisterGateway.Proofs.Wire.Inverse
import RegisterGateway.Proofs.Wire.Layout
import RegisterGateway.RawIngest.Frame
import RegisterGateway.RawIngest.Header
import RegisterGateway.RawIngest.Listener
import RegisterGateway.RawIngest.Stream
import RegisterGateway.Register.Area
import RegisterGateway.Register.Registry
import RegisterGateway.Register.Store
import RegisterGateway.Rest.Http
import RegisterGateway.Rest.Interface
import RegisterGateway.Rest.MediaType
import RegisterGateway.Rest.Query
import RegisterGateway.Telemetry.Counters
import RegisterGateway.Text.Blank
import RegisterGateway.Text.Hexadecimal
import RegisterGateway.Text.Lossy
import RegisterGateway.Text.Numeral
import RegisterGateway.Text.Split
import RegisterGateway.Wire.Bits
import RegisterGateway.Wire.Exact
import RegisterGateway.Wire.Word
