import RegisterGateway.Proofs.Json.Values
import RegisterGateway.Proofs.Rest.Handling

/-!
# Reads over HTTP

A request for a range of cells that is let through is answered with a body that is read back as the
cells: bits as truth values, words as numbers.
-/

namespace RegisterGateway.Rest

/-- A request that may read, and asks for a range of cells. -/
structure Request.AsksFor (request : Request) (interface : Interface) (key : String) (area : Area)
    (address : UInt16) (count : Nat) : Prop where
  through : isLetThrough interface request = true
  enabled : interface.readEnabled = true
  gets : request.method = "GET"
  path : request.target.path = "/api/v1/memory/read"
  query : ∃ name, ReadQuery.ofText? request.target.query =
    some ⟨some key, some name, some address, some count⟩ ∧ Ingest.areaOf? name = some area
  /-- A name without characters names no memory. -/
  named : key ≠ ""

/-- A cell as a JSON value. -/
def cellToJson : (area : Area) → area.Cell → Json.Value
  | .coils, bit | .discreteInputs, bit => .bool bit
  | .holdingRegisters, word | .inputRegisters, word => .nat word.toNat

theorem valuesToJson_ofCells (area : Area) (cells : List area.Cell) :
    valuesToJson (.ofCells area cells) = .array (cells.map (cellToJson area)) := by
  cases area <;> rfl

/-- What the body of a response says about a range of cells. -/
def readReport (key : String) (area : Area) (address : UInt16) (cells : List area.Cell) :
    Json.Value :=
  .record [("success", .bool true),
    ("data", .record [("memory", .string key), ("area", .string area.name),
      ("address", .nat address.toNat), ("values", .array (cells.map (cellToJson area)))]),
    ("error", .null)]

/-- A request for a body is answered with it. -/
theorem finishing_of_get {endpoint : Endpoint} {request : Request}
    (named : request.target.path = endpoint.path) (gets : request.method = "GET")
    (answered : endpoint.methods.contains request.method = true) (response : Response) :
    finishing request response = response := by
  have body : request.method ≠ "HEAD" := by
    rw [gets]
    decide
  simp only [finishing, named, Endpoint.ofPath?_path, answered, if_true, if_neg body]

/-- A range that exists is reported, and the memories stay as they are. -/
theorem handle_of_asksFor {interface : Interface} {request : Request} {key : String} {area : Area}
    {address : UInt16} {count : Nat} (asks : request.AsksFor interface key area address count)
    {plant : Plant} {store : Store} (present : plant.registry.find? key = some store)
    {cells : List area.Cell} (read : store.readCells area address count = .ok cells)
    (status : Option Mqtt.Status) :
    (handle interface status request plant).1.status = 200 ∧
      Json.Value.ofBytes? (handle interface status request plant).1.body =
        some (readReport key area address cells) ∧
      (handle interface status request plant).2.registry = plant.registry := by
  obtain ⟨through, enabled, gets, path, ⟨name, query, spelled⟩, filled⟩ := asks
  have named : request.target.path = Endpoint.readMemory.path := path
  have answered : Endpoint.readMemory.methods.contains request.method = true := by
    rw [gets]
    decide
  have found : (some key).filter (fun key => !key.isEmpty) = some key := by
    simp [filled]
  have values : store.read area address count = .ok (.ofCells area cells) := by
    rw [Store.read, read]
    rfl
  have counted : (plant.record .restRequest).registry.find? key = some store := present
  rw [handle_of_letThrough through, route_of_endpoint named answered,
    finishing_of_get named gets answered]
  simp only [Endpoint.answer, answerRead, enabled, Bool.not_true, Bool.false_eq_true, if_false,
    query, found, counted, spelled, values, valuesToJson_ofCells]
  exact ⟨rfl, Json.Value.ofBytes?_write _, rfl⟩

end RegisterGateway.Rest
