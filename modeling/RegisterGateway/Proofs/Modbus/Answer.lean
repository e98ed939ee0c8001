import RegisterGateway.Modbus.Server
import RegisterGateway.Proofs.Register.Cells
import RegisterGateway.Proofs.Results

/-!
# What a Modbus request does to the memory that it reaches

A request either reaches no memory, or it is answered by one memory alone: `answerAt` is the
answer of that memory, and by `answerBy_reached` the registry is otherwise left as it was. What
can happen at the memory is one of three things, which `answerAt_handled` lists.
-/

namespace RegisterGateway.Modbus

/-! ## Exceptions -/

private theorem and_absorbs_or (first second : UInt8) : (first ||| second) &&& second = second := by
  apply UInt8.eq_of_toBitVec_eq
  rw [UInt8.toBitVec_and, UInt8.toBitVec_or]
  ext index inside
  rw [BitVec.getElem_and, BitVec.getElem_or]
  exact Bool.and_eq_right_iff_imp.2 fun bit => by rw [bit, Bool.or_true]

@[simp] theorem isException_exceptionResponse (code : UInt8) (fault : Fault) :
    isException (exceptionResponse code fault) = true := by
  rw [exceptionResponse, isException, and_absorbs_or]
  rfl

/-- No function that is served has the high bit in its code. -/
@[simp] theorem isException_code (function : Function) (rest : List UInt8) :
    isException (function.code :: rest) = false := by
  cases function <;> rfl

/-! ## Reads and writes -/

/-- The write that a request asks for. -/
def Request.write? : Request → Option AreaWrite
  | .read .. => none
  | .write area address values => some ⟨area, address, values⟩

/-- The functions that read are those with the codes that read; the others write to the areas
of the operator. -/
theorem write?_ofData {function : Function} {data : List UInt8} {request : Request}
    (decoded : Request.ofData function data = .ok request) :
    request.write?.isNone = PortPolicy.readCodes.contains function.code ∧
      ∀ write, request.write? = some write → write.area.isOperator = true := by
  unfold Request.ofData at decoded
  split at decoded
  · cases function with
    | readCoils | readDiscreteInputs | readHoldingRegisters | readInputRegisters =>
        obtain ⟨_, -, decoded⟩ := bind_eq_ok_iff.1 decoded
        cases decoded
        exact ⟨rfl, nofun⟩
    | writeSingleCoil =>
        obtain ⟨value, -, decoded⟩ := bind_eq_ok_iff.1 decoded
        cases decoded
        exact ⟨rfl, fun write same => Option.some.inj same ▸ rfl⟩
    | writeSingleRegister =>
        cases decoded
        exact ⟨rfl, fun write same => Option.some.inj same ▸ rfl⟩
    | writeMultipleCoils | writeMultipleRegisters =>
        obtain ⟨_, -, decoded⟩ := bind_eq_ok_iff.1 decoded
        obtain ⟨bytes, -, decoded⟩ := bind_eq_ok_iff.1 decoded
        cases decoded
        exact ⟨rfl, fun write same => Option.some.inj same ▸ rfl⟩
  · contradiction

/-- The write that the code and the data of a request ask for, if they can be decoded. -/
def asked? (code : UInt8) (data : List UInt8) : Option AreaWrite := do
  let function ← Function.ofCode? code
  let request ← (Request.ofData function data).toOption
  request.write?

/-! ## The answer of a memory -/

/-- The answer of the memory that a request reaches, and what it leaves. -/
def answerAt (code : UInt8) (data : List UInt8) (store : Store) : List UInt8 × Store :=
  if store.isPreRun then (exceptionResponse code .illegalFunction, store)
  else match Function.ofCode? code with
    | none => (exceptionResponse code .illegalFunction, store)
    | some function =>
      match perform function data store with
      | .ok served => served
      | .error fault => (exceptionResponse code fault, store)

/-- What a request can come to at a memory. -/
inductive Handled (code : UInt8) (data : List UInt8) (store : Store) :
    List UInt8 × Store → Prop where
  /-- An exception changes nothing. -/
  | turnedDown (fault : Fault) : Handled code data store (exceptionResponse code fault, store)
  /-- A read changes nothing. -/
  | read {response : List UInt8} (answered : isException response = false)
      (reads : PortPolicy.readCodes.contains code = true) (nothingAsked : asked? code data = none) :
      Handled code data store (response, store)
  /-- A write goes to an area of the operator of a memory that runs. -/
  | written {response : List UInt8} {write : AreaWrite} (answered : isException response = false)
      (writes : PortPolicy.readCodes.contains code = false) (asked : asked? code data = some write)
      (operator : write.area.isOperator = true) (runs : store.state = .run)
      (admitted : store.admits write) : Handled code data store (response, store.after write)

/-- A request that a running memory carries out is read or written. -/
theorem handled_of_perform {function : Function} {data : List UInt8} {store : Store}
    {served : List UInt8 × Store} (runs : store.state = .run)
    (performed : perform function data store = .ok served) :
    Handled function.code data store served := by
  obtain ⟨request, decoded, performed⟩ := bind_eq_ok_iff.1 performed
  have asked : asked? function.code data = request.write? := by
    simp [asked?, decoded, Except.toOption]
  obtain ⟨kind, operator⟩ := write?_ofData decoded
  cases request with
  | read area address count =>
      obtain ⟨cells, -, performed⟩ := bind_eq_ok_iff.1 performed
      cases performed
      exact .read (isException_code function _) kind.symm asked
  | write area address values =>
      obtain ⟨changed, stored, performed⟩ := bind_eq_ok_iff.1 performed
      cases performed
      obtain ⟨-, admitted, rfl⟩ := Store.writeCells_eq_ok_iff.1 (mapError_eq_ok_iff.1 stored)
      exact .written (isException_code function _) kind.symm asked (operator _ rfl) runs admitted

theorem answerAt_handled (code : UInt8) (data : List UInt8) (store : Store) :
    Handled code data store (answerAt code data store) := by
  unfold answerAt
  split
  · exact .turnedDown .illegalFunction
  · rename_i begun
    have runs := Store.isPreRun_eq_false_iff.1 (Bool.eq_false_iff.2 begun)
    split
    · exact .turnedDown .illegalFunction
    · rename_i function known
      split
      · rename_i served performed
        rw [← Function.ofCode?_eq_some_iff.1 known]
        exact handled_of_perform runs performed
      · rename_i fault _
        exact .turnedDown fault

/-! ## The answer of a registry -/

theorem Reach.find?_eq_some_iff {reach : Reach} {registry : Registry} {unit code : UInt8}
    {key : String} {store : Store} :
    reach.find? registry unit code = some (key, store) ↔
      reach unit code = some key ∧ registry.find? key = some store := by
  simp only [Reach.find?, Option.bind_eq_bind, Option.bind_eq_some_iff, Option.pure_def]
  constructor
  · rintro ⟨reachedKey, reached, reachedStore, present, same⟩
    cases same
    exact ⟨reached, present⟩
  · rintro ⟨reached, present⟩
    exact ⟨key, reached, store, present, rfl⟩

/-- An empty request is turned down, whatever the memories hold. -/
theorem answerBy_nil (reach : Reach) (unit : UInt8) (registry : Registry) :
    answerBy reach unit [] registry = (exceptionResponse 0 .illegalFunction, registry) := rfl

/-- A request that reaches no memory is turned down, whatever the memories hold. -/
theorem answerBy_unreached {reach : Reach} {unit code : UInt8} {registry : Registry}
    (unreached : reach.find? registry unit code = none) (data : List UInt8) :
    answerBy reach unit (code :: data) registry =
      (exceptionResponse code .illegalDataAddress, registry) := by
  simp [answerBy, begin, unreached, finish]

/-- A request that reaches a memory is answered by it, and no other memory is touched. -/
theorem answerBy_reached {reach : Reach} {unit code : UInt8} {registry : Registry} {key : String}
    {store : Store} (reached : reach unit code = some key)
    (present : registry.find? key = some store) (data : List UInt8) :
    answerBy reach unit (code :: data) registry =
      ((answerAt code data store).1, registry.replace key (answerAt code data store).2) := by
  have found : reach.find? registry unit code = some (key, store) := by
    simp [Reach.find?, reached, present]
  have same : registry.replace key store = registry := Registry.replace_of_find? present
  simp only [answerBy, begin, found, answerAt]
  split
  · simp only [finish, same]
  · cases known : Function.ofCode? code with
    | none => simp only [finish, same]
    | some function =>
        rw [← Function.ofCode?_eq_some_iff.1 known]
        simp only [finish, present]
        cases perform function data store with
        | ok served => rfl
        | error fault => simp only [same]

/-- A request is turned down without a look at any memory's cells, or it is answered by the memory
that it reaches. -/
theorem answerBy_cases (reach : Reach) (unit : UInt8) (request : List UInt8)
    (registry : Registry) :
    (∃ code fault,
      answerBy reach unit request registry = (exceptionResponse code fault, registry)) ∨
      ∃ code data key store, request = code :: data ∧ reach unit code = some key ∧
        registry.find? key = some store ∧
        answerBy reach unit request registry =
          ((answerAt code data store).1, registry.replace key (answerAt code data store).2) := by
  cases request with
  | nil => exact .inl ⟨0, .illegalFunction, answerBy_nil reach unit registry⟩
  | cons code data =>
      cases found : reach.find? registry unit code with
      | none => exact .inl ⟨code, .illegalDataAddress, answerBy_unreached found data⟩
      | some memory =>
          obtain ⟨key, store⟩ := memory
          obtain ⟨reached, present⟩ := Reach.find?_eq_some_iff.1 found
          exact .inr ⟨code, data, key, store, rfl, reached, present,
            answerBy_reached reached present data⟩

end RegisterGateway.Modbus
