import RegisterGateway.Modbus.Header
import RegisterGateway.Modbus.Server
import RegisterGateway.Net.Serving
import RegisterGateway.Wire.Exact

/-!
# Modbus connections

The bytes of a connection are cut into requests, each a header and as many bytes as the
header says, and every complete request is answered in order. A malformed header ends the
connection: nothing after it is served. Bytes of an incomplete request wait for the rest.
-/

namespace RegisterGateway.Modbus

/-- What stands at the front of some bytes. -/
inductive Cut where
  | request (header : Header) (body rest : List UInt8)
  | incomplete
  | malformed (fault : MalformedFrame)
  deriving DecidableEq, Repr

/-- Cuts the first request off some bytes. -/
def cut (bytes : List UInt8) : Cut :=
  match Header.read? bytes with
  | none => .incomplete
  | some (header, rest) =>
    match header.bodyLength with
    | .error fault => .malformed fault
    | .ok length =>
      match Wire.takeExact? length rest with
      | none => .incomplete
      | some (body, rest) => .request header body rest

theorem length_rest_of_cut {bytes body rest : List UInt8} {header : Header}
    (taken : cut bytes = .request header body rest) : rest.length < bytes.length := by
  unfold cut at taken
  split at taken
  · contradiction
  · rename_i read
    split at taken
    · contradiction
    · split at taken
      · contradiction
      · rename_i exactly
        simp only [Cut.request.injEq] at taken
        obtain ⟨rfl, rfl, rfl⟩ := taken
        have shorter := Header.length_of_read? read
        have parts := (Wire.takeExact?_eq_some_iff.1 exactly).1
        simp only [parts, List.length_append, Header.byteCount] at shorter
        omega

/-- Answers one complete request: the request is counted, and its answer if it is an
exception. -/
def respond (resolver : Resolver) (header : Header) (body : List UInt8) (plant : Plant) :
    List UInt8 × Plant :=
  let (response, registry) := answer resolver header.unitId body plant.registry
  let served := (plant.record .modbusRequest).withRegistry registry
  let counted := if isException response then served.record .modbusException else served
  (encodeResponse header response, counted)

/-- Serves every complete request of some bytes. -/
def serve (resolver : Resolver) (bytes : List UInt8) (plant : Plant) : Net.Served :=
  match taken : cut bytes with
  | .request header body rest =>
      have : rest.length < bytes.length := length_rest_of_cut taken
      let (reply, after) := respond resolver header body plant
      (serve resolver rest after).behind reply
  | .incomplete => ⟨[], plant, bytes, true⟩
  | .malformed _ => .ended plant
termination_by bytes.length

end RegisterGateway.Modbus
