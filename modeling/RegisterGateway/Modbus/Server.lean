import RegisterGateway.Access.Rules
import RegisterGateway.Modbus.Request
import RegisterGateway.Register.Registry

/-!
# Answering Modbus requests

A request is answered in two looks at the registry. The first finds the memory that the
request reaches and whether its run has begun; the second reads or writes the memory.
Between them other operations may change the registry, so `begin` and `finish` are apart;
`answerBy` is one directly after the other, and `answer` is that for a listener's resolver.
-/

namespace RegisterGateway.Modbus

/-- A way of finding the memory of a request: its key, for a unit id and a function code, unless
the request is denied. -/
abbrev Reach := UInt8 → UInt8 → Option String

/-- The key and the store of the memory that a request reaches; none if it is denied or the
memory is missing. -/
def Reach.find? (reach : Reach) (registry : Registry) (unit code : UInt8) :
    Option (String × Store) := do
  let key ← reach unit code
  let store ← registry.find? key
  pure (key, store)

/-- How a listener finds the memory of a request. -/
inductive Resolver where
  /-- Every request reaches the default memory. -/
  | defaultMemory
  /-- The access rules of one port decide. -/
  | governed (port : UInt16) (rules : AccessRules)
  deriving DecidableEq

/-- The way in which a resolver finds memories, given the key of the default one. -/
def Resolver.reach (resolver : Resolver) (defaultKey : String) : Reach :=
  fun unit code =>
    match resolver with
    | .defaultMemory => some defaultKey
    | .governed port rules => (rules.resolve port unit code).toOption

def Fault.ofStoreError : StoreError → Fault
  | .outOfRange .. => .illegalDataAddress
  | .kindMismatch _ => .illegalDataValue
  | .isSealed _ => .illegalFunction

/-- The byte count and the bytes with which cells are answered. -/
def encodeCells : (area : Area) → List area.Cell → List UInt8
  | .coils, cells | .discreteInputs, cells =>
      let bytes := Wire.pack cells
      UInt8.ofNat bytes.length :: bytes
  | .holdingRegisters, cells | .inputRegisters, cells =>
      UInt8.ofNat (2 * cells.length) :: Wire.bytesOfWords cells

/-- Carries out a request on a store; the answer of a write repeats its address and second
word. -/
def perform (function : Function) (data : List UInt8) (store : Store) :
    Except Fault (List UInt8 × Store) := do
  match ← Request.ofData function data with
  | .read area address count =>
      let cells ← (store.readCells area address count).mapError Fault.ofStoreError
      pure (function.code :: encodeCells area cells, store)
  | .write area address values =>
      let changed ← (store.writeCells .always area address values).mapError Fault.ofStoreError
      pure (function.code :: data.take 4, changed)

/-- What is known after the first look: the answer, or the memory and function to go on
with. -/
inductive Pending where
  | answered (response : List UInt8)
  | admitted (key : String) (function : Function) (data : List UInt8)

/-- The first look: a request without a code is an illegal function, one that reaches no
memory an illegal address; a memory before its run and an unknown code are illegal
functions. -/
def begin (reach : Reach) (unit : UInt8) (request : List UInt8) (registry : Registry) :
    Pending :=
  match request with
  | [] => .answered (exceptionResponse 0 .illegalFunction)
  | code :: data =>
    match reach.find? registry unit code with
    | none => .answered (exceptionResponse code .illegalDataAddress)
    | some (key, store) =>
        if store.isPreRun then .answered (exceptionResponse code .illegalFunction)
        else match Function.ofCode? code with
          | none => .answered (exceptionResponse code .illegalFunction)
          | some function => .admitted key function data

/-- The second look: carries out an admitted request. -/
def finish (pending : Pending) (registry : Registry) : List UInt8 × Registry :=
  match pending with
  | .answered response => (response, registry)
  | .admitted key function data =>
    match registry.find? key with
    | none => (exceptionResponse function.code .illegalDataAddress, registry)
    | some store =>
      match perform function data store with
      | .ok (response, changed) => (response, registry.replace key changed)
      | .error fault => (exceptionResponse function.code fault, registry)

/-- The answer to a request whose memory is found in a given way, and the registry after it. -/
def answerBy (reach : Reach) (unit : UInt8) (request : List UInt8) (registry : Registry) :
    List UInt8 × Registry :=
  finish (begin reach unit request registry) registry

def answer (resolver : Resolver) (unit : UInt8) (request : List UInt8) (registry : Registry) :
    List UInt8 × Registry :=
  answerBy (resolver.reach registry.defaultKey) unit request registry

end RegisterGateway.Modbus
