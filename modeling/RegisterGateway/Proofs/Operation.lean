import RegisterGateway.Proofs.Modbus.Answer
import RegisterGateway.Proofs.Register.LastWrite
import RegisterGateway.Proofs.Rest.Handling

/-!
# Operations on the memories

Modbus requests, ingest frames, ingest commands, HTTP requests and direct calls of a store all act
on one registry. An operation asks for at most one write, which its own content decides (`asked?`).
By `outcome_perform` an operation fails, reads, or makes the write that it asks for; everything that
is said of runs of operations goes back to these three cases.
-/

namespace RegisterGateway

/-- What can be asked of the memories, by the entrance where it arrives. The memory of a Modbus
request is found in any way that depends on its unit and its function code; that of a listener's
resolver is one of them. -/
inductive Operation where
  | modbus (reach : Modbus.Reach) (unit : UInt8) (request : List UInt8)
  | frame (frame : RawIngest.Frame)
  | command (command : Ingest.Command)
  | http (interface : Rest.Interface) (status : Option Mqtt.Status) (counters : Counters)
      (request : Rest.Request)
  | direct (key : String) (call : StoreCall)

/-- What an operation is answered. -/
inductive Answer where
  | modbus (response : List UInt8)
  | frame (result : Except RawIngest.Rejection Unit)
  | command (result : Except Ingest.IngestError Nat)
  | http (response : Rest.Response)
  /-- The answer of a store, if there is one under the key. -/
  | direct (answer : Option StoreAnswer)

/-- Whether a store has done what it was asked to do. -/
def StoreAnswer.isSuccess : StoreAnswer → Bool
  | .values result => result.isOk
  | .written result => result.isOk
  | .snapshot _ => true

/-- Whether an answer says that the operation has succeeded. -/
def Answer.isSuccess : Answer → Bool
  | .modbus response => !Modbus.isException response
  | .frame result => result.isOk
  | .command result => result.isOk
  | .http response => response.status = 200
  | .direct answer => answer.any StoreAnswer.isSuccess

/-- The write that a call of a store asks for. -/
def StoreCall.asked? : StoreCall → Option AreaWrite
  | .read .. | .snapshot => none
  | .write _ area address values =>
      (values.cellsFor? area).map fun cells => ⟨area, address, cells⟩
  | .writeCells area address values => some ⟨area, address, values⟩

/-- Whether a call of a store is one that reads. -/
def StoreCall.isRead : StoreCall → Bool
  | .read .. | .snapshot => true
  | .write .. | .writeCells .. => false

namespace Operation

/-- Whether an operation arrives as a Modbus request. -/
def isModbus : Operation → Bool
  | .modbus .. => true
  | _ => false

/-- Whether an operation is one that reads. -/
def isRead : Operation → Bool
  | .modbus _ _ request => request.head?.any PortPolicy.readCodes.contains
  | .frame _ | .command _ => false
  | .http _ _ _ request => request.isRead
  | .direct _ call => call.isRead

/-- The write that an operation asks for, with the key of its memory. -/
def asked? : Operation → Option (String × AreaWrite)
  | .modbus _ _ [] => none
  | .modbus reach unit (code :: data) => do
      let key ← reach unit code
      let write ← Modbus.asked? code data
      pure (key, write)
  | .frame sent => sent.asked?
  | .command given => given.asked?
  | .http _ _ _ request => request.asked?
  | .direct key call => call.asked?.map fun write => (key, write)

/-- Carries out an operation: its answer, and the registry that it leaves. -/
def perform (operation : Operation) (registry : Registry) : Answer × Registry :=
  match operation with
  | .modbus reach unit request =>
      let (response, after) := Modbus.answerBy reach unit request registry
      (.modbus response, after)
  | .frame sent =>
      match RawIngest.apply registry sent with
      | .ok after => (.frame (.ok ()), after)
      | .error reason => (.frame (.error reason), registry)
  | .command given =>
      match given.ingest registry with
      | .ok (written, after) => (.command (.ok written), after)
      | .error error => (.command (.error error), registry)
  | .http interface status counters request =>
      let (response, after) := Rest.handle interface status request ⟨registry, counters⟩
      (.http response, after.registry)
  | .direct key call =>
      match registry.find? key with
      | none => (.direct none, registry)
      | some store =>
        let (answer, after) := store.perform call
        (.direct (some answer), registry.replace key after)

/-- What an operation can come to. -/
inductive Outcome (operation : Operation) (before : Registry) : Answer × Registry → Prop where
  | failed {answer : Answer} (failure : answer.isSuccess = false) :
      Outcome operation before (answer, before)
  | read {answer : Answer} (success : answer.isSuccess = true) (reads : operation.isRead = true)
      (nothingAsked : operation.asked? = none) : Outcome operation before (answer, before)
  | written {answer : Answer} {after : Registry} {key : String} {write : AreaWrite}
      (success : answer.isSuccess = true) (writes : operation.isRead = false)
      (asked : operation.asked? = some (key, write)) (wrote : before.Wrote key write after)
      (operator : operation.isModbus = true → write.area.isOperator = true) :
      Outcome operation before (answer, after)

/-! ## Every operation fails, reads or writes -/

theorem outcome_modbus (reach : Modbus.Reach) (unit : UInt8) (request : List UInt8)
    (registry : Registry) :
    Outcome (.modbus reach unit request) registry
      ((Operation.modbus reach unit request).perform registry) := by
  simp only [perform]
  rcases Modbus.answerBy_cases reach unit request registry with
    ⟨code, fault, turnedDown⟩ | ⟨code, data, key, store, rfl, reached, present, answered⟩
  · rw [turnedDown]
    exact .failed (by simp [Answer.isSuccess])
  · rw [answered]
    have handled := Modbus.answerAt_handled code data store
    generalize Modbus.answerAt code data store = answer at handled
    cases handled with
    | turnedDown fault =>
        rw [Registry.replace_of_find? present]
        exact .failed (by simp [Answer.isSuccess])
    | read answered reads nothingAsked =>
        rw [Registry.replace_of_find? present]
        exact .read (by simp [Answer.isSuccess, answered]) (by simpa [isRead] using reads)
          (by simp [asked?, nothingAsked])
    | written answered writes asked operator runs admitted =>
        exact .written (by simp [Answer.isSuccess, answered]) (by simpa [isRead] using writes)
          (by simp [asked?, reached, asked]) ⟨store, present, admitted, rfl⟩ (fun _ => operator)

theorem outcome_direct (key : String) (call : StoreCall) (registry : Registry) :
    Outcome (.direct key call) registry ((Operation.direct key call).perform registry) := by
  simp only [perform]
  cases present : registry.find? key with
  | none => exact .failed rfl
  | some store =>
      cases call with
      | read area address count =>
          simp only [Store.perform, Registry.replace_of_find? present]
          cases result : store.read area address count with
          | error error => exact .failed rfl
          | ok values => exact .read rfl rfl rfl
      | snapshot =>
          simp only [Store.perform, Registry.replace_of_find? present]
          exact .read rfl rfl rfl
      | writeCells area address values =>
          simp only [Store.perform]
          cases stored : store.writeCells .always area address values with
          | error error =>
              simp only [StoreAnswer.ofWrite, Registry.replace_of_find? present]
              exact .failed rfl
          | ok changed =>
              exact .written rfl rfl rfl (Registry.wrote_of_writeCells present stored)
                fun fromModbus => absurd fromModbus Bool.false_ne_true
      | write mode area address values =>
          simp only [Store.perform]
          cases result : store.write mode area address values with
          | error error =>
              simp only [StoreAnswer.ofWrite, Registry.replace_of_find? present]
              exact .failed rfl
          | ok changed =>
              obtain ⟨cells, kind, stored⟩ := Store.write_eq_ok_iff.1 result
              have asked : (Operation.direct key (.write mode area address values)).asked? =
                  some (key, ⟨area, address, cells⟩) := by
                simp [asked?, StoreCall.asked?, kind]
              exact .written rfl rfl asked (Registry.wrote_of_writeCells present stored)
                fun fromModbus => absurd fromModbus Bool.false_ne_true

/-- Every operation fails, reads, or makes the write that it asks for. -/
theorem outcome_perform (operation : Operation) (registry : Registry) :
    Outcome operation registry (operation.perform registry) := by
  cases operation with
  | modbus reach unit request => exact outcome_modbus reach unit request registry
  | frame sent =>
      simp only [perform]
      cases applied : RawIngest.apply registry sent with
      | error reason => exact .failed rfl
      | ok after =>
          obtain ⟨key, write, asked, wrote⟩ := RawIngest.written_of_apply applied
          exact .written rfl rfl asked wrote nofun
  | command given =>
      simp only [perform]
      cases ingested : given.ingest registry with
      | error error => exact .failed rfl
      | ok result =>
          obtain ⟨key, write, asked, wrote⟩ := Ingest.written_of_ingest ingested
          exact .written rfl rfl asked wrote nofun
  | http interface status counters request =>
      have outcome := Rest.outcome_handle interface status request ⟨registry, counters⟩
      simp only [perform]
      generalize Rest.handle interface status request ⟨registry, counters⟩ = handled at outcome ⊢
      obtain ⟨response, ⟨after, counted⟩⟩ := handled
      cases outcome with
      | refused failed => exact .failed (by simpa [Answer.isSuccess] using failed)
      | shown succeeded reads =>
          exact .read (by simpa [Answer.isSuccess] using succeeded) reads
            (Rest.asked?_eq_none_of_isRead reads)
      | written succeeded posts asked wrote =>
          exact .written (by simpa [Answer.isSuccess] using succeeded)
            (Rest.isRead_eq_false_of_post posts) asked wrote nofun
  | direct key call => exact outcome_direct key call registry

end Operation

end RegisterGateway
