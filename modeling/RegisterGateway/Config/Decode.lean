import RegisterGateway.Access.PolicyNode
import RegisterGateway.Config.Model

/-!
# Decoding configurations

The records of a configuration, field by field. The policy of a port stands among the
port's own settings: its fields are collected by their looks first and are decoded when all
settings of the port have been seen.
-/

namespace RegisterGateway.Config

open Document (Datum DecodeError Decoding Node Tree malformed)

/-- A word of 16 bits. -/
def word (tree : Tree) (node : Node) : Decoding UInt16 :=
  UInt16.ofNat <$> tree.natural 65536 node

/-- A size or a duration: a number of 64 bits. -/
def size (tree : Tree) (node : Node) : Decoding Nat :=
  tree.natural 0x10000000000000000 node

def texts (tree : Tree) (node : Node) : Decoding (List String) :=
  tree.list Tree.text node

def AreaSettings.ofNode (tree : Tree) (node : Node) : Decoding AreaSettings :=
  Tree.record {} ["size"] [
    ("start", Tree.field word fun settings start => { settings with start }),
    ("size", Tree.field Config.size fun settings size => { settings with size })] tree node

/-- Reads where a gate is. -/
def GateSettings.ofNode (tree : Tree) (node : Node) : Decoding GateSettings :=
  Tree.record {} ["area", "address"] [
    ("area", Tree.field Tree.text fun settings area => { settings with area }),
    ("address", Tree.field (Tree.natural 0x100000000) fun settings address =>
      { settings with address })] tree node

/-- Reads the sealing of a memory. -/
def SealingSettings.ofNode (tree : Tree) (node : Node) : Decoding SealingSettings :=
  Tree.record {} ["enable", "gate"] [
    ("enable", Tree.field Tree.bool fun settings enabled => { settings with enabled }),
    ("gate", Tree.field GateSettings.ofNode fun settings gate => { settings with gate })] tree node

def MemorySettings.ofNode (tree : Tree) (node : Node) : Decoding MemorySettings :=
  Tree.record {} ["coils", "discrete_inputs", "holding_registers", "input_registers"] [
    ("default", Tree.field Tree.bool fun settings isDefault => { settings with isDefault }),
    ("coils", Tree.field AreaSettings.ofNode fun settings coils => { settings with coils }),
    ("discrete_inputs", Tree.field AreaSettings.ofNode fun settings discreteInputs =>
      { settings with discreteInputs }),
    ("holding_registers", Tree.field AreaSettings.ofNode fun settings holdingRegisters =>
      { settings with holdingRegisters }),
    ("input_registers", Tree.field AreaSettings.ofNode fun settings inputRegisters =>
      { settings with inputRegisters }),
    ("state_sealing", Tree.field (Tree.optional SealingSettings.ofNode) fun settings sealing =>
      { settings with sealing })] tree node

/-- Reads the section of the memories. -/
def Memories.ofNode (tree : Tree) (node : Node) : Decoding Memories :=
  Tree.record .empty ["memories"] [
    ("memories", Tree.field (Tree.table Tree.text MemorySettings.ofNode) fun _ memories =>
      memories)] tree node

/-- Reads the section of the routing. -/
def routingOfNode (tree : Tree) (node : Node) : Decoding (Table UInt8 String) :=
  let unit (tree : Tree) (node : Node) : Decoding UInt8 :=
    UInt8.ofNat <$> tree.natural 256 node
  Tree.record .empty ["unit_id_map"] [
    ("unit_id_map", Tree.field (Tree.table unit Tree.text) fun _ routing => routing)] tree node

/-- Reads which peers may connect. -/
def FilterSettings.ofNode (tree : Tree) (node : Node) : Decoding FilterSettings :=
  Tree.record {} [] [
    ("allow", Tree.field texts fun settings allow => { settings with allow }),
    ("deny", Tree.field texts fun settings deny => { settings with deny })] tree node

/-- The settings of a port while they are read: those that are its own, and the others by
their looks, in reverse. -/
structure PortDraft where
  maxConnections : Option Nat := none
  ipFilter : Option FilterSettings := none
  others : List (Option String × Datum) := []

/-- How deep the settings of a port may nest collections, below the three around them. -/
def portDepth : Nat := Tree.maxDepth - 3

def PortDraft.read (tree : Tree) (draft : PortDraft) (name : String) (node : Node) :
    Decoding PortDraft := do
  match name with
  | "max_connections" =>
      let maxConnections ← once draft.maxConnections (Config.size tree node)
      pure { draft with maxConnections }
  | "ip_filter" =>
      let ipFilter ← once draft.ipFilter (FilterSettings.ofNode tree node)
      pure { draft with ipFilter }
  | _ =>
      let datum ← tree.captured portDepth node
      pure { draft with others := (some name, datum) :: draft.others }

def PortSettings.ofNode (tree : Tree) (node : Node) : Decoding PortSettings := do
  let draft ← Tree.foldFields (PortDraft.read tree) {} tree node
  let policy ← PortPolicy.ofFields (.ofData Datum.isVoid) draft.others.reverse
  let settings : PortSettings := { policy }
  pure { settings with
    maxConnections := draft.maxConnections.getD settings.maxConnections
    ipFilter := draft.ipFilter.getD settings.ipFilter }

/-- Reads the settings of the HTTP interface. -/
def RestSettings.ofNode (tree : Tree) (node : Node) : Decoding RestSettings :=
  Tree.record {} [] [
    ("enabled", Tree.field Tree.bool fun settings enabled => { settings with enabled }),
    ("address", Tree.field Tree.text fun settings address => { settings with address }),
    ("auth_enabled", Tree.field Tree.bool fun settings authEnabled =>
      { settings with authEnabled }),
    ("tokens", Tree.field texts fun settings tokens => { settings with tokens }),
    ("enable_ingest", Tree.field Tree.bool fun settings enableIngest =>
      { settings with enableIngest }),
    ("enable_read", Tree.field Tree.bool fun settings enableRead => { settings with enableRead }),
    ("enable_diagnostics", Tree.field Tree.bool fun settings enableDiagnostics =>
      { settings with enableDiagnostics })] tree node

/-- Reads the settings of the broker subscription. -/
def MqttSettings.ofNode (tree : Tree) (node : Node) : Decoding MqttSettings :=
  Tree.record {} [] [
    ("enabled", Tree.field Tree.bool fun settings enabled => { settings with enabled }),
    ("broker", Tree.field Tree.text fun settings broker => { settings with broker }),
    ("client_id", Tree.field Tree.text fun settings clientId => { settings with clientId }),
    ("topic", Tree.field Tree.text fun settings topic => { settings with topic }),
    ("username", Tree.field (Tree.optional Tree.text) fun settings username =>
      { settings with username }),
    ("password", Tree.field (Tree.optional Tree.text) fun settings password =>
      { settings with password })] tree node

def RawIngestSettings.ofNode (tree : Tree) (node : Node) :
    Decoding RawIngestSettings :=
  Tree.record {} [] [
    ("enabled", Tree.field Tree.bool fun settings enabled => { settings with enabled }),
    ("listen", Tree.field Tree.text fun settings listen => { settings with listen }),
    ("max_packet_bytes", Tree.field Config.size fun settings maxPacketBytes =>
      { settings with maxPacketBytes }),
    ("read_timeout_ms", Tree.field Config.size fun settings readTimeoutMs =>
      { settings with readTimeoutMs })] tree node

/-- Reads a whole configuration. -/
def ofNode (tree : Tree) (node : Node) : Decoding Config :=
  Tree.record {} ["memory", "routing"] [
    ("memory", Tree.field Memories.ofNode fun config memories => { config with memories }),
    ("routing", Tree.field routingOfNode fun config routing => { config with routing }),
    ("ports", Tree.field (Tree.table word PortSettings.ofNode) fun config ports =>
      { config with ports }),
    ("rest", Tree.field RestSettings.ofNode fun config rest => { config with rest }),
    ("mqtt", Tree.field MqttSettings.ofNode fun config mqtt => { config with mqtt }),
    ("raw_ingest", Tree.field RawIngestSettings.ofNode fun config rawIngest =>
      { config with rawIngest })] tree node

/-- The configuration that a text spells, valid or not. -/
def ofText (source : String) : Except DecodeError Config :=
  Tree.decode Config.ofNode source

end RegisterGateway.Config
