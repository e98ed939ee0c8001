import RegisterGateway.Access.Policy
import RegisterGateway.Ordered.Table

/-!
# Access rules of a gateway

The routing of unit ids to memory keys and the policies of the ports decide together
which memory a request reaches. A port without a policy lets every routed unit pass.
-/

namespace RegisterGateway

/-- Why a request reaches no memory. -/
inductive Denial where
  | unroutedUnit (unit : UInt8)
  | unitNotAllowed (port : UInt16) (unit : UInt8)
  | memoryNotAllowed (port : UInt16) (memory : String)
  | functionCodeNotAllowed (port : UInt16) (code : UInt8)
  deriving DecidableEq, Repr

def Denial.message : Denial → String
  | .unroutedUnit unit =>
      let number := unit.toNat
      s!"unit id {number} is not routed"
  | .unitNotAllowed port unit =>
      let listener := port.toNat
      let number := unit.toNat
      s!"unit id {number} not allowed on port {listener}"
  | .memoryNotAllowed port memory =>
      let listener := port.toNat
      s!"memory {memory} not allowed on port {listener}"
  | .functionCodeNotAllowed port code =>
      let listener := port.toNat
      let number := code.toNat
      s!"function code {number} not allowed on port {listener}"

/-- Where units are routed, and what the ports allow. -/
structure AccessRules where
  routing : Table UInt8 String
  ports : Table UInt16 PortPolicy
  deriving DecidableEq

/-- The key of the memory that a request reaches, or the first reason against it: the unit
is not routed, not selected, its memory not selected, its function code not allowed. -/
def AccessRules.resolve (rules : AccessRules) (port : UInt16) (unit code : UInt8) :
    Except Denial String :=
  match rules.routing.find? unit with
  | none => .error (.unroutedUnit unit)
  | some memory =>
    match rules.ports.find? port with
    | none => .ok memory
    | some policy =>
        if !policy.unitIds.selects unit then .error (.unitNotAllowed port unit)
        else if !policy.memories.selects memory then .error (.memoryNotAllowed port memory)
        else if !policy.allowsFunctionCode code then .error (.functionCodeNotAllowed port code)
        else .ok memory

end RegisterGateway
