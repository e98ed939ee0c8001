import RegisterGateway.Proofs.History
import RegisterGateway.Proofs.Ingest.Interleaving
import RegisterGateway.Proofs.Register.Apart

/-!
# Messages that do not depend on each other

A message resolves to at most one memory and is about one range of its cells, which its own content
decides. Besides these cells its answer depends only on the gate, the run state and the sizes of
that memory. So two messages that have no cell in common may come in either order, as long as
neither of them begins the run of the memory that the other one resolves to.
-/

namespace RegisterGateway

/-! ## What messages are about -/

namespace Modbus

/-- The range that a request reads or writes. -/
def Request.range : Request → CellRange
  | .read area address count => ⟨area, address, count⟩
  | .write area address values => ⟨area, address, values.length⟩

/-- The range that the code and the data of a request are about, if they can be decoded. -/
def range? (code : UInt8) (data : List UInt8) : Option CellRange := do
  let function ← Function.ofCode? code
  let request ← (Request.ofData function data).toOption
  pure request.range

theorem range?_of_asked? {code : UInt8} {data : List UInt8} {write : AreaWrite}
    (asked : asked? code data = some write) : range? code data = some write.range := by
  simp only [asked?, Option.bind_eq_bind, Option.bind_eq_some_iff] at asked
  obtain ⟨function, known, request, decoded, writes⟩ := asked
  cases request with
  | read => contradiction
  | write area address values =>
      cases writes
      simp only [range?, known, decoded, Option.bind_eq_bind, Option.bind_some]
      rfl

end Modbus

/-- What is sent to the memories by devices and by those who feed them: a Modbus request, an ingest
frame, or an ingest command. -/
inductive Message where
  | modbus (reach : Modbus.Reach) (unit : UInt8) (request : List UInt8)
  | frame (sent : RawIngest.Frame)
  | command (given : Ingest.Command)

namespace Message

/-- A message as one of all operations. -/
def operation : Message → Operation
  | .modbus reach unit request => .modbus reach unit request
  | .frame sent => .frame sent
  | .command given => .command given

/-- Carries out a message: its answer, and the registry that it leaves. -/
def perform (message : Message) (registry : Registry) : Answer × Registry :=
  message.operation.perform registry

/-- The key of the memory that a message resolves to, whether or not there is such a memory. -/
def target? : Message → Option String
  | .modbus _ _ [] => none
  | .modbus reach unit (code :: _) => reach unit code
  | .frame sent => some (Registry.keyOfId sent.header.memoryId)
  | .command given => some given.memory

/-- The range that a message is about, with the key of its memory, if the message can be decoded. -/
def range? : Message → Option (String × CellRange)
  | .modbus _ _ [] => none
  | .modbus reach unit (code :: data) => do
      let key ← reach unit code
      let range ← Modbus.range? code data
      pure (key, range)
  | .frame sent => sent.asked?.map fun asked => (asked.1, asked.2.range)
  | .command given => given.asked?.map fun asked => (asked.1, asked.2.range)

/-- Whether a message is about a cell of the memory of a key. -/
def Addresses (message : Message) (key : String) (area : Area) (index : Nat) : Prop :=
  ∃ range, message.range? = some (key, range) ∧ range.Covers area index

/-- Two messages have no cell in common: they are about different memories, different areas, or
ranges of one area that do not overlap. -/
def Apart (first second : Message) : Prop :=
  ∀ key area index, first.Addresses key area index → ¬ second.Addresses key area index

/-- A message opens the gate of the memory of a key: the run of the memory begins. -/
def OpensGate (message : Message) (registry : Registry) (key : String) : Prop :=
  ∃ before after, registry.find? key = some before ∧
    (message.perform registry).2.find? key = some after ∧
    before.state = .preRun ∧ after.state = .run

theorem Apart.symm {first second : Message} (apart : first.Apart second) : second.Apart first :=
  fun key area index ofSecond ofFirst => apart key area index ofFirst ofSecond

/-- The write that a message asks for goes to its range. -/
theorem range?_of_asked? {message : Message} {key : String} {write : AreaWrite}
    (asked : message.operation.asked? = some (key, write)) :
    message.range? = some (key, write.range) := by
  cases message with
  | modbus reach unit request =>
      cases request with
      | nil => contradiction
      | cons code data =>
          simp only [operation, Operation.asked?, Option.bind_eq_bind, Option.bind_eq_some_iff,
            Option.pure_def, Option.some.injEq, Prod.mk.injEq] at asked
          obtain ⟨_, reached, _, askedToo, rfl, rfl⟩ := asked
          simp only [range?, reached, Modbus.range?_of_asked? askedToo]
          rfl
  | frame sent =>
      replace asked : sent.asked? = some (key, write) := asked
      rw [range?, asked, Option.map_some]
  | command given =>
      replace asked : given.asked? = some (key, write) := asked
      rw [range?, asked, Option.map_some]

end Message

/-! ## Answers of memories that are alike -/

section Answers

variable {within : Area → Nat → Prop} {first second : Store} {left right : Registry}

namespace Modbus

/-- Alike memories carry out a Modbus request with the same response. -/
theorem perform_alike (alike : first.AlikeAt within second) (function : Function)
    (data : List UInt8)
    (looked : ∀ request, Request.ofData function data = .ok request →
      ∀ area index, request.range.Covers area index → within area index) :
    (perform function data second).map Prod.fst = (perform function data first).map Prod.fst := by
  cases decoded : Request.ofData function data with
  | error fault => simp only [perform, decoded, bind, Except.bind]
  | ok request =>
      cases request with
      | read area address count =>
          simp only [perform, decoded, bind, Except.bind,
            alike.readCells_eq (looked _ decoded area)]
          cases first.readCells area address count <;> rfl
      | write area address values =>
          simp only [perform, decoded, bind, Except.bind, Store.writeCells_always,
            alike.inRange_eq, alike.size]
          by_cases inside : first.inRange area address values.length
          · simp only [if_pos inside]
            rfl
          · simp only [if_neg inside]

theorem answerAt_alike (alike : first.AlikeAt within second) {code : UInt8} {data : List UInt8}
    (looked : ∀ range, range? code data = some range →
      ∀ area index, range.Covers area index → within area index) :
    (answerAt code data second).1 = (answerAt code data first).1 := by
  unfold answerAt
  rw [alike.isPreRun_eq]
  split
  · rfl
  · cases known : Function.ofCode? code with
    | none => rfl
    | some function =>
        have same := perform_alike alike function data
          fun request decoded => looked _ (by simp [range?, known, decoded, Except.toOption])
        cases ofSecond : perform function data second <;>
          cases ofFirst : perform function data first <;> rw [ofSecond, ofFirst] at same
        case error.error => simp only [ofSecond, ofFirst, Except.error.inj same]
        case error.ok => contradiction
        case ok.error => contradiction
        case ok.ok =>
          simp only [ofSecond, ofFirst]
          exact Except.ok.inj same

/-- A request is answered alike if the memory that it reaches is missing, or alike where the
request looks at it. -/
theorem response_alike {reach : Reach} {unit code : UInt8} {data : List UInt8}
    (alike : ∀ key, reach unit code = some key →
      Option.Rel (Store.AlikeAt within) (left.find? key) (right.find? key))
    (looked : ∀ range, range? code data = some range →
      ∀ area index, range.Covers area index → within area index) :
    (answerBy reach unit (code :: data) right).1 = (answerBy reach unit (code :: data) left).1 := by
  have unreached {registry : Registry}
      (missing : ∀ key, reach unit code = some key → registry.find? key = none) :
      reach.find? registry unit code = none := by
    refine Option.eq_none_iff_forall_ne_some.2 fun memory found => ?_
    obtain ⟨reached, present⟩ := Reach.find?_eq_some_iff.1 found
    rw [missing _ reached] at present
    contradiction
  cases reached : reach unit code with
  | none =>
      rw [answerBy_unreached (unreached (by simp [reached])),
        answerBy_unreached (unreached (by simp [reached]))]
  | some key =>
      have related := alike key reached
      cases inLeft : left.find? key <;> cases inRight : right.find? key <;>
        rw [inLeft, inRight] at related <;> cases related
      case none.none.none =>
        rw [answerBy_unreached (unreached fun other same => ?_),
          answerBy_unreached (unreached fun other same => ?_)]
        · rwa [← Option.some.inj (reached.symm.trans same)]
        · rwa [← Option.some.inj (reached.symm.trans same)]
      case some.some.some related =>
        rw [answerBy_reached reached inLeft, answerBy_reached reached inRight]
        exact answerAt_alike related looked

end Modbus

/-- Whether a frame is applied to a memory depends on the sizes of its areas alone. -/
theorem RawIngest.applyTo_alike (alike : first.AlikeAt within second) (header : Header)
    (payload : List UInt8) :
    (applyTo second header payload).map (fun _ => ()) =
      (applyTo first header payload).map fun _ => () := by
  cases aligned : align header.area payload header.count with
  | error reason => simp only [applyTo, aligned, bind, Except.bind]
  | ok values =>
      simp only [applyTo, aligned, bind, Except.bind, Store.writeCells_always, alike.inRange_eq]
      by_cases inside : first.inRange header.area header.address values.length
      · simp only [if_pos inside]
        rfl
      · simp only [if_neg inside]

theorem RawIngest.apply_alike {frame : Frame}
    (alike : Option.Rel (Store.AlikeAt within)
      (left.find? (Registry.keyOfId frame.header.memoryId))
      (right.find? (Registry.keyOfId frame.header.memoryId))) :
    (apply right frame).map (fun _ => ()) = (apply left frame).map fun _ => () := by
  have forgotten (store : Store) (registry : Registry) (key : String) :
      ((applyTo store frame.header frame.payload).map (registry.replace key)).map (fun _ => ()) =
        (applyTo store frame.header frame.payload).map fun _ => () := by
    cases applyTo store frame.header frame.payload <;> rfl
  simp only [apply]
  generalize left.find? _ = inLeft at alike ⊢
  generalize right.find? _ = inRight at alike ⊢
  cases alike with
  | none => rfl
  | some alike => simp only [forgotten, applyTo_alike alike]

/-- What a command is answered depends on the sizes of its memory and on its seal. -/
theorem Ingest.ingest_alike {command : Command}
    (alike : Option.Rel (Store.AlikeAt within) (left.find? command.memory)
      (right.find? command.memory)) :
    (command.ingest right).map Prod.fst = (command.ingest left).map Prod.fst := by
  cases inLeft : left.find? command.memory <;> cases inRight : right.find? command.memory <;>
    rw [inLeft, inRight] at alike <;> cases alike
  case none.none.none =>
    simp only [Command.ingest, Command.check, inLeft, inRight]
    rfl
  case some.some.some alike =>
    have sameCheck : command.check right = command.check left := by
      simp only [Command.check, inLeft, inRight, alike.isSealed_eq]
    rw [Command.ingest, Command.ingest, sameCheck]
    cases checked : command.check left with
    | error error => rfl
    | ok pending =>
        have key := (asks_of_check checked).key
        change (pending.commit right).map Prod.fst = (pending.commit left).map Prod.fst
        rw [commit_eq (key ▸ inRight), commit_eq (key ▸ inLeft), alike.isSealed_eq,
          alike.inRange_eq, alike.size]
        split
        · rfl
        · split <;> rfl

end Answers

namespace Message

/-- A message is answered alike where its memory is alike at the cells that it is about. -/
theorem answer_alike {message : Message} {left right : Registry}
    (alike : ∀ key, message.target? = some key →
      Option.Rel (Store.AlikeAt (message.Addresses key)) (left.find? key) (right.find? key)) :
    (message.perform right).1 = (message.perform left).1 := by
  cases message with
  | modbus reach unit request =>
      cases request with
      | nil => rfl
      | cons code data =>
          refine congrArg Answer.modbus ?_
          cases reached : reach unit code with
          | none =>
              -- No memory is reached, so there is nothing to be alike at.
              have unreached : ∀ key, reach unit code = some key →
                  Option.Rel (Store.AlikeAt fun _ _ => True) (left.find? key)
                    (right.find? key) := by
                simp [reached]
              exact Modbus.response_alike unreached fun _ _ _ _ _ => trivial
          | some key =>
              have alikeThere : ∀ other, reach unit code = some other →
                  Option.Rel (Store.AlikeAt
                    ((Message.modbus reach unit (code :: data)).Addresses key))
                    (left.find? other) (right.find? other) := by
                intro other same
                rw [← Option.some.inj (reached.symm.trans same)]
                exact alike key reached
              refine Modbus.response_alike alikeThere fun range decoded area index covered => ?_
              exact ⟨range, by simp [range?, reached, decoded], covered⟩
  | frame sent =>
      have answer (registry : Registry) : ((Message.frame sent).perform registry).1 =
          .frame ((RawIngest.apply registry sent).map fun _ => ()) := by
        simp only [perform, operation, Operation.perform]
        cases RawIngest.apply registry sent <;> rfl
      rw [answer, answer, RawIngest.apply_alike (alike _ rfl)]
  | command given =>
      have answer (registry : Registry) : ((Message.command given).perform registry).1 =
          .command ((given.ingest registry).map Prod.fst) := by
        simp only [perform, operation, Operation.perform]
        cases given.ingest registry <;> rfl
      rw [answer, answer, Ingest.ingest_alike (alike _ rfl)]

/-! ## Messages in either order -/

variable {first second : Message} {registry : Registry}

/-- A message leaves the memory that another one resolves to alike to that one. -/
theorem alike_after (apart : first.Apart second)
    (stays : ∀ key, second.target? = some key → ¬ first.OpensGate registry key) (key : String)
    (resolves : second.target? = some key) :
    Option.Rel (Store.AlikeAt (second.Addresses key)) (registry.find? key)
      ((first.perform registry).2.find? key) := by
  have follows := follows_perform first.operation registry
  have left := follows.memory key
  change (first.perform registry).2.find? key = _ at left
  cases present : registry.find? key with
  | none =>
      rw [left, present]
      exact .none
  | some store =>
      rw [present, Option.map_some] at left
      rw [left]
      refine .some ?_
      cases made : first.operation.made? (first.operation.perform registry).1 with
      | none => exact .refl store
      | some entry =>
          obtain ⟨madeKey, write⟩ := entry
          have admitted := follows.admitted key store present
          rw [made] at left admitted
          -- A write to another memory leaves this one as it is; a write to this one covers other
          -- cells than the second message is about.
          by_cases same : madeKey = key
          · subst same
            have single : writesTo madeKey (some (madeKey, write)).toList = [write] := by
              simp [writesTo]
            rw [single] at left admitted ⊢
            have fits := admitted write List.mem_cons_self
            have asked : first.operation.asked? = some (madeKey, write) := by
              simpa [Operation.made?] using (Option.ite_none_right_eq_some.1 made).2
            refine Store.alikeAt_after fits (fun area index ofSecond covered => ?_) ?_
            · exact apart madeKey area index ⟨_, range?_of_asked? asked, covered⟩ ofSecond
            · refine (Store.differsBy_after fits).state.resolve_right ?_
              rintro ⟨waits, runs, -⟩
              exact stays madeKey resolves ⟨store, _, present, left, waits, runs⟩
          · have none : writesTo key (some (madeKey, write)).toList = [] := by
              simp [writesTo, same]
            rw [none]
            exact .refl store

/-- No message makes another memory the default one. -/
theorem defaultKey_perform (message : Message) (registry : Registry) :
    (message.perform registry).2.defaultKey = registry.defaultKey := by
  have outcome := message.operation.outcome_perform registry
  unfold perform
  generalize message.operation.perform registry = result at outcome ⊢
  cases outcome with
  | failed | read => rfl
  | written success writes asked wrote operator => exact wrote.defaultKey

/-- Two messages that have no cell in common may come in either order: both are answered the same,
and the same registry is left, provided that neither of them opens the gate of the memory that the
other one resolves to. -/
theorem independent_messages_commute (apart : first.Apart second)
    (firstStays : ∀ key, second.target? = some key → ¬ first.OpensGate registry key)
    (secondStays : ∀ key, first.target? = some key → ¬ second.OpensGate registry key) :
    ∃ firstAnswer secondAnswer last,
      sequence perform [first, second] registry = ([firstAnswer, secondAnswer], last) ∧
        sequence perform [second, first] registry = ([secondAnswer, firstAnswer], last) := by
  have ofSecond : (second.perform (first.perform registry).2).1 = (second.perform registry).1 :=
    answer_alike (alike_after apart firstStays)
  have ofFirst : (first.perform (second.perform registry).2).1 = (first.perform registry).1 :=
    answer_alike (alike_after apart.symm secondStays)
  -- In either order both messages make the writes that they would make on their own.
  have inOrder := (follows_perform first.operation registry).append
    (follows_perform second.operation (first.perform registry).2)
  have swapped := (follows_perform second.operation registry).append
    (follows_perform first.operation (second.perform registry).2)
  change Registry.Follows _ (_ ++ (second.operation.made?
    (second.perform (first.perform registry).2).1).toList) _ at inOrder
  change Registry.Follows _ (_ ++ (first.operation.made?
    (first.perform (second.perform registry).2).1).toList) _ at swapped
  rw [ofSecond] at inOrder
  rw [ofFirst] at swapped
  have sameMemories := inOrder.swap swapped fun key firstWrite secondWrite ofFirst ofSecond =>
    fun area index byFirst bySecond => apart key area index
      ⟨_, range?_of_asked? (Option.ite_none_right_eq_some.1 ofFirst).2, byFirst⟩
      ⟨_, range?_of_asked? (Option.ite_none_right_eq_some.1 ofSecond).2, bySecond⟩
  have same : (second.perform (first.perform registry).2).2 =
      (first.perform (second.perform registry).2).2 :=
    Registry.eq_of_find? sameMemories (by simp only [defaultKey_perform])
  refine ⟨(first.perform registry).1, (second.perform registry).1,
    (second.perform (first.perform registry).2).2, ?_, ?_⟩
  · rw [sequence_cons, sequence_cons, ofSecond]
    rfl
  · rw [sequence_cons, sequence_cons, ofFirst, same]
    rfl

/-- A memory with three coils, all of them off. -/
def threeCoils : Registry :=
  { memories := .ofList [("1", .ofLayout ⟨3, 0, 0, 0⟩ none)], defaultKey := "1" }

/-- A device switches the first two coils on. -/
def switchingTwo : Message :=
  .modbus (fun _ _ => some "1") 1 [15, 0, 0, 0, 2, 1, 3]

/-- A command switches the third coil on. -/
def switchingThird : Message :=
  .command ⟨"1", "coils", 2, [1], []⟩

/-- In a memory without gate there is none to be opened. -/
theorem not_opensGate_threeCoils (message : Message) : ¬ message.OpensGate threeCoils "1" := by
  rintro ⟨before, after, present, -, waits, -⟩
  cases present
  cases waits

/-- The coils are neighbours, and it does not matter which of them are switched on first. -/
theorem neighbouring_coils_commute :
    ∃ last, (last.find? "1").map Store.coils = some [true, true, true] ∧
      sequence perform [switchingTwo, switchingThird] threeCoils =
        ([.modbus [15, 0, 0, 0, 2], .command (.ok 1)], last) ∧
      sequence perform [switchingThird, switchingTwo] threeCoils =
        ([.command (.ok 1), .modbus [15, 0, 0, 0, 2]], last) := by
  have ofDevice : switchingTwo.range? = some ("1", ⟨.coils, 0, 2⟩) := by decide
  have ofCommand : switchingThird.range? = some ("1", ⟨.coils, 2, 1⟩) := by decide
  have apart : switchingTwo.Apart switchingThird := by
    rintro key area index ⟨range, asked, -, -, below⟩ ⟨other, askedToo, -, above, -⟩
    cases ofDevice.symm.trans asked
    cases ofCommand.symm.trans askedToo
    exact Nat.not_lt.2 above below
  have firstStays : ∀ key, switchingThird.target? = some key →
      ¬ switchingTwo.OpensGate threeCoils key := by
    rintro _ ⟨⟩
    exact not_opensGate_threeCoils switchingTwo
  have secondStays : ∀ key, switchingTwo.target? = some key →
      ¬ switchingThird.OpensGate threeCoils key := by
    rintro _ ⟨⟩
    exact not_opensGate_threeCoils switchingThird
  obtain ⟨firstAnswer, secondAnswer, last, inOrder, swapped⟩ :=
    independent_messages_commute apart firstStays secondStays
  cases (rfl : sequence perform _ threeCoils =
    ([.modbus [15, 0, 0, 0, 2], .command (.ok 1)], _)).symm.trans inOrder
  exact ⟨_, by decide, inOrder, swapped⟩

end Message

end RegisterGateway
