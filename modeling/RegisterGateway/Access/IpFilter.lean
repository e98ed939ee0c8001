import RegisterGateway.Access.Address
import RegisterGateway.Text.Blank

/-!
# Filters of peer addresses

A filter has a list of allowed and a list of denied networks. A network is an address with
the number of leading bits that count; a single address is the network of its full width.
A peer is let in unless a denied network holds it, or there are allowed networks and none
of them does. Mapped IPv4 addresses count as IPv4 on both sides.
-/

namespace RegisterGateway.Access

/-- The addresses of one family that agree with an address in their leading bits. -/
inductive Network where
  | v4 (address : BitVec 32) (width : Nat)
  | v6 (address : BitVec 128) (width : Nat)
  deriving DecidableEq, Repr

namespace Network

def single (address : Address) : Network :=
  match address.canonical with
  | .v4 bits => .v4 bits 32
  | .v6 bits => .v6 bits 128

/-- The network of an address and a number of leading bits, which must fit the width of the
address. Of a mapped IPv4 address the 96 bits in front do not count any more. -/
def ofWidth? (address : Address) (width : Nat) : Option Network :=
  match address, address.canonical with
  | .v6 _, .v4 bits =>
      if 96 ≤ width ∧ width ≤ 128 then some (.v4 bits (width - 96)) else none
  | _, .v4 bits => if width ≤ 32 then some (.v4 bits width) else none
  | _, .v6 bits => if width ≤ 128 then some (.v6 bits width) else none

/-- The word whose leading bits are set, so many of them, and no others: all bits are shifted
out where none of them is to count. -/
def leadingBits (size width : Nat) : BitVec size :=
  BitVec.allOnes size <<< (size - width)

/-- Whether a network holds an address, given in canonical form. -/
def holds (network : Network) (peer : Address) : Bool :=
  match network, peer with
  | .v4 address width, .v4 bits =>
      address &&& leadingBits 32 width = bits &&& leadingBits 32 width
  | .v6 address width, .v6 bits =>
      address &&& leadingBits 128 width = bits &&& leadingBits 128 width
  | _, _ => false

/-- Reads an entry without surrounding blanks: an address, or an address, a slash and a
number below 256. -/
def ofChars? (entry : List Char) : Option Network :=
  match entry.dropWhile (· ≠ '/') with
  | [] => (Address.ofChars? entry).map single
  | _ :: width => do
      let address ← Address.ofChars? (entry.takeWhile (· ≠ '/'))
      let width ← Text.word? 256 width
      ofWidth? address width

end Network

/-- An entry that is no network, without its surrounding blanks. -/
structure InvalidEntry where
  entry : String
  deriving DecidableEq, Repr

def InvalidEntry.message (invalid : InvalidEntry) : String :=
  "config error: invalid ip filter entry: " ++ invalid.entry

/-- The networks that are let in and those that are kept out. -/
structure IpFilter where
  allow : List Network := []
  deny : List Network := []
  deriving DecidableEq, Repr

namespace IpFilter

/-- Reads one entry of a list. -/
def compileEntry (entry : String) : Except InvalidEntry Network :=
  match Network.ofChars? (Text.trimChars entry.toList) with
  | some network => .ok network
  | none => .error ⟨Text.trim entry⟩

/-- Reads both lists, the allowed entries first; one invalid entry refuses them all. -/
def compile (allow deny : List String) : Except InvalidEntry IpFilter := do
  let allow ← allow.mapM compileEntry
  let deny ← deny.mapM compileEntry
  pure ⟨allow, deny⟩

def isEnabled (filter : IpFilter) : Bool :=
  !filter.allow.isEmpty || !filter.deny.isEmpty

/-- Whether a peer is let in: denial wins, and an empty list of allowed networks allows
everything. -/
def allows (filter : IpFilter) (peer : Address) : Bool :=
  let peer := peer.canonical
  if filter.deny.any (·.holds peer) then false
  else filter.allow.isEmpty || filter.allow.any (·.holds peer)

end IpFilter

end RegisterGateway.Access
