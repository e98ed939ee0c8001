import RegisterGateway.Text.Blank
import RegisterGateway.Text.Numeral
import RegisterGateway.Text.Split

/-!
# Broker addresses

A broker is written as a host, or a host, a colon and a port number; one of two schemes may
stand in front. The last colon counts, so a host may hold colons itself if a port
number follows it.
-/

namespace RegisterGateway.Mqtt

/-- Where a broker listens. -/
structure Broker where
  host : String
  port : UInt16
  deriving DecidableEq, Repr

/-- A text that is no broker address. -/
structure InvalidBroker where
  text : String
  deriving DecidableEq, Repr

/-- The wording for a text that is no broker address. -/
def InvalidBroker.message (invalid : InvalidBroker) : String :=
  "invalid broker address: " ++ invalid.text

namespace Broker

/-- The schemes, in the order in which they are tried. -/
def schemes : List String := ["tcp://", "mqtt://"]

/-- The port that is meant when none is written. -/
def defaultPort : UInt16 := 1883

/-- A text without the first scheme that stands in front of it. -/
def withoutScheme (text : List Char) : List Char :=
  match schemes.find? (fun scheme => scheme.toList.isPrefixOf text) with
  | some scheme => text.drop scheme.length
  | none => text

/-- The address that a trimmed text without scheme denotes. -/
def ofAuthority? (text : List Char) : Option Broker :=
  match Text.splitAtLast? ':' text with
  | none => if text.isEmpty then none else some ⟨String.ofList text, defaultPort⟩
  | some (host, number) => do
      let number ← Text.word? 65536 number
      if host.isEmpty then none else some ⟨String.ofList host, UInt16.ofNat number⟩

/-- Reads a broker address; surrounding blanks do not count. -/
def parse (text : String) : Except InvalidBroker Broker :=
  match ofAuthority? (withoutScheme (Text.trimChars text.toList)) with
  | some broker => .ok broker
  | none => .error ⟨text⟩

def toText (broker : Broker) : String :=
  broker.host ++ ":" ++ Text.decimal broker.port.toNat

end Broker

end RegisterGateway.Mqtt
