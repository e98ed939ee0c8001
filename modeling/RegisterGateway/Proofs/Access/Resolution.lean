import RegisterGateway.Access.Rules

/-!
# What access rules let through

The rules of a port are said here as they are declared, without regard to the order in which they
are looked at: what a selector selects, which function codes a policy allows, and the four
objections that can be raised to a request. A request is refused with the objection that comes
first.

Rules that have become tighter for a port let no request through that was refused before. What has
been written down twice, or in another order, decides alike.
-/

namespace RegisterGateway

/-! ## Selectors -/

namespace Selector

variable {κ : Type} [LT κ]

/-- A selector selects a key: it is for everything, or a list with this key. -/
def Selects : Selector κ → κ → Prop
  | .all, _ => True
  | .listed keys, key => key ∈ keys.elements

theorem selects_iff [DecidableEq κ] (selector : Selector κ) (key : κ) :
    selector.selects key = true ↔ selector.Selects key := by
  cases selector with
  | all => exact iff_of_true rfl trivial
  | listed keys => rw [selects, KeySet.contains, List.contains_iff_mem, Selects]

/-- Keys have been taken off the list of a selector, or nothing has been done to it. -/
inductive Narrows : Selector κ → Selector κ → Prop where
  | refl (selector : Selector κ) : Narrows selector selector
  | removed {before after : KeySet κ} (fewer : ∀ key ∈ after.elements, key ∈ before.elements) :
      Narrows (.listed before) (.listed after)

theorem Narrows.selects {before after : Selector κ} (narrows : before.Narrows after) {key : κ}
    (selected : after.Selects key) : before.Selects key := by
  cases narrows with
  | refl => exact selected
  | removed fewer => exact fewer key selected

variable [DecidableEq κ] [DecidableLT κ] [LE κ] [Std.IsLinearOrder κ] [Std.LawfulOrderLT κ]

/-- Two selectors have been written down with the same keys, in any order and any number of
times. -/
inductive SameEntries : Selector κ → Selector κ → Prop where
  | refl (selector : Selector κ) : SameEntries selector selector
  | listed {first second : List κ} (same : ∀ key, key ∈ first ↔ key ∈ second) :
      SameEntries (.listed (.ofList first)) (.listed (.ofList second))

theorem SameEntries.selects_eq {first second : Selector κ} (same : first.SameEntries second)
    (key : κ) : first.selects key = second.selects key := by
  rw [Bool.eq_iff_iff, selects_iff, selects_iff]
  cases same with
  | refl => rfl
  | listed same => rw [Selects, Selects, KeySet.mem_ofList, KeySet.mem_ofList, same key]

end Selector

/-! ## Policies -/

namespace PortPolicy

/-- The function codes that a policy lists as allowed; none if it has no such list. -/
def allowed (policy : PortPolicy) : List UInt8 :=
  policy.functionCodes.elim [] FunctionCodeAcl.allow

/-- The function codes that a policy lists as denied; none if it has no such list. -/
def denied (policy : PortPolicy) : List UInt8 :=
  policy.functionCodes.elim [] FunctionCodeAcl.deny

/-- The function codes that an access mode leaves: the four that read, or those of a list, where an
empty list leaves them all. -/
def Leaves (allowed : List UInt8) (code : UInt8) : AccessMode → Prop
  | .readOnly => code = 1 ∨ code = 2 ∨ code = 3 ∨ code = 4
  | .readWrite => allowed = [] ∨ code ∈ allowed

/-- A policy allows a function code. -/
def AllowsCode (policy : PortPolicy) (code : UInt8) : Prop :=
  code ∉ policy.denied ∧ Leaves policy.allowed code policy.access

theorem deniesFunctionCode_iff {policy : PortPolicy} {code : UInt8} :
    policy.deniesFunctionCode code = true ↔ code ∈ policy.denied := by
  rw [deniesFunctionCode, denied]
  cases policy.functionCodes <;> simp

theorem allowsFunctionCode_iff {policy : PortPolicy} {code : UInt8} :
    policy.allowsFunctionCode code = true ↔ policy.AllowsCode code := by
  rw [allowsFunctionCode]
  by_cases listed : code ∈ policy.denied
  · rw [if_pos (deniesFunctionCode_iff.2 listed)]
    exact iff_of_false Bool.false_ne_true fun allows => allows.1 listed
  · rw [if_neg (mt deniesFunctionCode_iff.1 listed), AllowsCode, and_iff_right listed]
    cases policy.access with
    | readOnly => simp [readCodes, Leaves]
    | readWrite =>
        rw [denied] at listed
        cases codes : policy.functionCodes with
        | none => simp [Leaves, allowed, codes]
        | some acl =>
            rw [codes] at listed
            have undenied : code ∉ acl.deny := listed
            simp [Leaves, allowed, codes, FunctionCodeAcl.permits, undenied]

/-- A policy has become tighter: entries have been taken off its selectors, or added to its denied
function codes. -/
structure Tightens (before after : PortPolicy) : Prop where
  unitIds : before.unitIds.Narrows after.unitIds
  memories : before.memories.Narrows after.memories
  access : after.access = before.access
  allowed : after.allowed = before.allowed
  denied : ∀ code ∈ before.denied, code ∈ after.denied

theorem Tightens.allowsCode {before after : PortPolicy} (tightens : before.Tightens after)
    {code : UInt8} (allows : after.AllowsCode code) : before.AllowsCode code := by
  obtain ⟨undenied, left⟩ := allows
  rw [tightens.allowed, tightens.access] at left
  exact ⟨fun listed => undenied (tightens.denied code listed), left⟩

/-- Codes that are taken off the allowed ones do not make a policy tighter: the last of them to go
leaves every code allowed. -/
example :
    PortPolicy.allowsFunctionCode ⟨.all, .all, .readWrite, some ⟨[3], []⟩⟩ 6 = false ∧
      PortPolicy.allowsFunctionCode ⟨.all, .all, .readWrite, some ⟨[], []⟩⟩ 6 = true := by
  decide

/-- Two policies have been written down with the same entries, in any order and any number of
times. -/
structure SameEntries (first second : PortPolicy) : Prop where
  unitIds : first.unitIds.SameEntries second.unitIds
  memories : first.memories.SameEntries second.memories
  access : first.access = second.access
  allowed : ∀ code, code ∈ first.allowed ↔ code ∈ second.allowed
  denied : ∀ code, code ∈ first.denied ↔ code ∈ second.denied

theorem SameEntries.allowsFunctionCode_eq {first second : PortPolicy}
    (same : first.SameEntries second) (code : UInt8) :
    first.allowsFunctionCode code = second.allowsFunctionCode code := by
  have bothEmpty : first.allowed = [] ↔ second.allowed = [] := by
    simp only [List.eq_nil_iff_forall_not_mem, same.allowed]
  rw [Bool.eq_iff_iff, allowsFunctionCode_iff, allowsFunctionCode_iff, AllowsCode, AllowsCode,
    same.denied, same.access]
  cases second.access with
  | readOnly => exact .rfl
  | readWrite => rw [Leaves, Leaves, bothEmpty, same.allowed]

end PortPolicy

/-! ## Objections to a request -/

/-- The place of a denial in the order in which objections are made. -/
def Denial.place : Denial → Nat
  | .unroutedUnit _ => 0
  | .unitNotAllowed .. => 1
  | .memoryNotAllowed .. => 2
  | .functionCodeNotAllowed .. => 3

namespace AccessRules

/-- What can be said against a request, each on its own. -/
inductive Objection (rules : AccessRules) (port : UInt16) (unit code : UInt8) : Denial → Prop where
  | unrouted (missing : rules.routing.find? unit = none) :
      Objection rules port unit code (.unroutedUnit unit)
  | unselectedUnit {policy : PortPolicy} (governed : rules.ports.find? port = some policy)
      (unselected : ¬ policy.unitIds.Selects unit) :
      Objection rules port unit code (.unitNotAllowed port unit)
  | unselectedMemory {policy : PortPolicy} {key : String}
      (routed : rules.routing.find? unit = some key)
      (governed : rules.ports.find? port = some policy)
      (unselected : ¬ policy.memories.Selects key) :
      Objection rules port unit code (.memoryNotAllowed port key)
  | refusedCode {policy : PortPolicy} (governed : rules.ports.find? port = some policy)
      (refused : ¬ policy.AllowsCode code) :
      Objection rules port unit code (.functionCodeNotAllowed port code)

section Requests

variable {rules : AccessRules} {port : UInt16} {unit code : UInt8} {key : String}
  {denial other : Denial}

/-- At one place there is one objection at most. -/
theorem Objection.unique (first : rules.Objection port unit code denial)
    (second : rules.Objection port unit code other) (same : denial.place = other.place) :
    denial = other := by
  cases first with
  | unrouted missing =>
      cases second with
      | unrouted => rfl
      | _ => simp [Denial.place] at same
  | unselectedUnit governed unselected =>
      cases second with
      | unselectedUnit => rfl
      | _ => simp [Denial.place] at same
  | unselectedMemory routed governed unselected =>
      cases second with
      | unselectedMemory routedToo => rw [Option.some.inj (routed.symm.trans routedToo)]
      | _ => simp [Denial.place] at same
  | refusedCode governed refused =>
      cases second with
      | refusedCode => rfl
      | _ => simp [Denial.place] at same

/-- What can be said against a request whose unit is routed, at a port with a policy. -/
theorem Objection.of_governed {memory : String} {policy : PortPolicy}
    (objection : rules.Objection port unit code denial)
    (routed : rules.routing.find? unit = some memory)
    (governed : rules.ports.find? port = some policy) :
    (denial = .unitNotAllowed port unit ∧ ¬ policy.unitIds.Selects unit) ∨
      (denial = .memoryNotAllowed port memory ∧ ¬ policy.memories.Selects memory) ∨
      (denial = .functionCodeNotAllowed port code ∧ ¬ policy.AllowsCode code) := by
  cases objection with
  | unrouted missing => cases missing.symm.trans routed
  | unselectedUnit governedToo unselected =>
      cases governedToo.symm.trans governed
      exact .inl ⟨rfl, unselected⟩
  | unselectedMemory routedToo governedToo unselected =>
      cases routedToo.symm.trans routed
      cases governedToo.symm.trans governed
      exact .inr (.inl ⟨rfl, unselected⟩)
  | refusedCode governedToo refused =>
      cases governedToo.symm.trans governed
      exact .inr (.inr ⟨rfl, refused⟩)

/-- What comes of a request: the first objection to it, or the memory that its unit is routed to. -/
inductive Verdict (rules : AccessRules) (port : UInt16) (unit code : UInt8) :
    Except Denial String → Prop where
  | refused {denial : Denial} (objection : rules.Objection port unit code denial)
      (first : ∀ other, rules.Objection port unit code other → denial.place ≤ other.place) :
      Verdict rules port unit code (.error denial)
  | reached {key : String} (routed : rules.routing.find? unit = some key)
      (clear : ∀ denial, ¬ rules.Objection port unit code denial) :
      Verdict rules port unit code (.ok key)

/-- A policy is asked for the unit, the memory and the function code, in this order. -/
theorem verdict_of_governed {memory : String} {policy : PortPolicy}
    (routed : rules.routing.find? unit = some memory)
    (governed : rules.ports.find? port = some policy) :
    Verdict rules port unit code (rules.resolve port unit code) := by
  have ofUnit : (!policy.unitIds.selects unit) = true ↔ ¬ policy.unitIds.Selects unit := by
    simp [← Selector.selects_iff]
  have ofMemory : (!policy.memories.selects memory) = true ↔ ¬ policy.memories.Selects memory := by
    simp [← Selector.selects_iff]
  have ofCode : (!policy.allowsFunctionCode code) = true ↔ ¬ policy.AllowsCode code := by
    simp [← PortPolicy.allowsFunctionCode_iff]
  simp only [resolve, routed, governed]
  by_cases unitSelected : policy.unitIds.Selects unit
  · rw [if_neg fun turned => ofUnit.1 turned unitSelected]
    by_cases memorySelected : policy.memories.Selects memory
    · rw [if_neg fun turned => ofMemory.1 turned memorySelected]
      by_cases allows : policy.AllowsCode code
      · rw [if_neg fun turned => ofCode.1 turned allows]
        refine .reached routed fun denial objection => ?_
        rcases objection.of_governed routed governed with ⟨-, against⟩ | ⟨-, against⟩ | ⟨-, against⟩
        · exact against unitSelected
        · exact against memorySelected
        · exact against allows
      · rw [if_pos (ofCode.2 allows)]
        refine .refused (.refusedCode governed allows) fun other objection => ?_
        rcases objection.of_governed routed governed with ⟨-, against⟩ | ⟨-, against⟩ | ⟨rfl, -⟩
        · exact absurd unitSelected against
        · exact absurd memorySelected against
        · exact Nat.le_refl _
    · rw [if_pos (ofMemory.2 memorySelected)]
      refine .refused (.unselectedMemory routed governed memorySelected) fun other objection => ?_
      rcases objection.of_governed routed governed with ⟨-, against⟩ | ⟨rfl, -⟩ | ⟨rfl, -⟩
      · exact absurd unitSelected against
      · exact Nat.le_refl _
      · exact Nat.le_succ _
  · rw [if_pos (ofUnit.2 unitSelected)]
    refine .refused (.unselectedUnit governed unitSelected) fun other objection => ?_
    rcases objection.of_governed routed governed with ⟨rfl, -⟩ | ⟨rfl, -⟩ | ⟨rfl, -⟩
    · exact Nat.le_refl _
    · exact Nat.le_succ _
    · exact Nat.le_add_right _ 2

/-- The objections are made in the order of their places. -/
theorem verdict_resolve (rules : AccessRules) (port : UInt16) (unit code : UInt8) :
    Verdict rules port unit code (rules.resolve port unit code) := by
  cases routed : rules.routing.find? unit with
  | none =>
      simp only [resolve, routed]
      exact .refused (.unrouted routed) fun _ _ => Nat.zero_le _
  | some memory =>
      cases governed : rules.ports.find? port with
      | some policy => exact verdict_of_governed routed governed
      | none =>
          simp only [resolve, routed, governed]
          refine .reached routed fun denial objection => ?_
          cases objection <;> simp_all

/-- A request reaches the memory that its unit is routed to if the policy of the port, where there
is one, selects the unit and the memory and allows the function code. -/
theorem resolve_eq_ok_iff : rules.resolve port unit code = .ok key ↔
    rules.routing.find? unit = some key ∧
      ∀ policy, rules.ports.find? port = some policy →
        policy.unitIds.Selects unit ∧ policy.memories.Selects key ∧ policy.AllowsCode code := by
  have verdict := verdict_resolve rules port unit code
  generalize rules.resolve port unit code = result at verdict ⊢
  cases verdict with
  | reached routed clear =>
      refine ⟨fun same => ?_, fun other => congrArg _ (Option.some.inj (routed.symm.trans other.1))⟩
      cases same
      refine ⟨routed, fun policy governed => ⟨?_, ?_, ?_⟩⟩
      · exact Classical.not_not.1 fun unselected => clear _ (.unselectedUnit governed unselected)
      · exact Classical.not_not.1 fun unselected =>
          clear _ (.unselectedMemory routed governed unselected)
      · exact Classical.not_not.1 fun refused => clear _ (.refusedCode governed refused)
  | refused objection first =>
      refine ⟨nofun, fun ⟨routed, selected⟩ => ?_⟩
      cases objection with
      | unrouted missing => cases missing.symm.trans routed
      | unselectedUnit governed unselected => exact absurd (selected _ governed).1 unselected
      | unselectedMemory routedToo governed unselected =>
          cases routedToo.symm.trans routed
          exact absurd (selected _ governed).2.1 unselected
      | refusedCode governed refused => exact absurd (selected _ governed).2.2 refused

/-- A request is refused with the first objection to it. -/
theorem resolve_eq_error_iff : rules.resolve port unit code = .error denial ↔
    rules.Objection port unit code denial ∧
      ∀ other, rules.Objection port unit code other → denial.place ≤ other.place := by
  have verdict := verdict_resolve rules port unit code
  generalize rules.resolve port unit code = result at verdict ⊢
  cases verdict with
  | reached routed clear => exact ⟨nofun, fun other => absurd other.1 (clear denial)⟩
  | @refused found objection first =>
      constructor
      · rintro same
        cases same
        exact ⟨objection, first⟩
      · rintro ⟨objectionToo, firstToo⟩
        have same := Nat.le_antisymm (first denial objectionToo) (firstToo found objection)
        rw [objection.unique objectionToo same]

end Requests

/-! ## Rules that differ -/

/-- Rules have become tighter for a port: routes have been removed, and the policy of the port has
become tighter, if it had one. Whatever may have happened to other ports does not matter. -/
structure Tightens (port : UInt16) (before after : AccessRules) : Prop where
  routes : ∀ unit key, after.routing.find? unit = some key → before.routing.find? unit = some key
  policy : ∀ given, before.ports.find? port = some given →
    ∃ tighter, after.ports.find? port = some tighter ∧ given.Tightens tighter

/-- Rules are the same for a port, but for the order and the repetition of what has been written
down. -/
structure SameEntries (port : UInt16) (first second : AccessRules) : Prop where
  routes : ∀ unit, first.routing.find? unit = second.routing.find? unit
  policy : Option.Rel PortPolicy.SameEntries (first.ports.find? port) (second.ports.find? port)

variable {port : UInt16} {unit code : UInt8}

/-- What tighter rules let through was let through before. -/
theorem Tightens.resolve_eq_ok {before after : AccessRules} (tightens : before.Tightens port after)
    {key : String} (resolved : after.resolve port unit code = .ok key) :
    before.resolve port unit code = .ok key := by
  obtain ⟨routed, selected⟩ := resolve_eq_ok_iff.1 resolved
  refine resolve_eq_ok_iff.2 ⟨tightens.routes unit key routed, fun given governed => ?_⟩
  obtain ⟨tighter, stillGoverned, tighterPolicy⟩ := tightens.policy given governed
  obtain ⟨ofUnit, ofMemory, ofCode⟩ := selected tighter stillGoverned
  exact ⟨tighterPolicy.unitIds.selects ofUnit, tighterPolicy.memories.selects ofMemory,
    tighterPolicy.allowsCode ofCode⟩

theorem SameEntries.resolve_eq {first second : AccessRules} (same : first.SameEntries port second) :
    first.resolve port unit code = second.resolve port unit code := by
  have policies := same.policy
  rw [resolve, resolve, same.routes unit]
  generalize first.ports.find? port = ofFirst at policies ⊢
  generalize second.ports.find? port = ofSecond at policies ⊢
  cases policies with
  | none => rfl
  | some policies =>
      simp only [policies.unitIds.selects_eq, policies.memories.selects_eq,
        policies.allowsFunctionCode_eq]

/-- Access rules resolve a request to the memory that its unit is routed to exactly if the policy of
the port, where there is one, selects both and allows the function code; otherwise they refuse it
with the first of four objections. Denied codes that are added, selected keys and routes that are
removed, and other policies of other ports never let a refused request through, and it does not
matter in which order, or how often, anything has been written down. -/
theorem resolve_is_declared_rule (rules : AccessRules) (port : UInt16) (unit code : UInt8) :
    (∀ key, rules.resolve port unit code = .ok key ↔
        rules.routing.find? unit = some key ∧
          ∀ policy, rules.ports.find? port = some policy →
            policy.unitIds.Selects unit ∧ policy.memories.Selects key ∧ policy.AllowsCode code) ∧
      (∀ denial, rules.resolve port unit code = .error denial ↔
        rules.Objection port unit code denial ∧
          ∀ other, rules.Objection port unit code other → denial.place ≤ other.place) ∧
      (∀ tighter key, rules.Tightens port tighter →
        tighter.resolve port unit code = .ok key → rules.resolve port unit code = .ok key) ∧
      ∀ other, rules.SameEntries port other →
        rules.resolve port unit code = other.resolve port unit code :=
  ⟨fun _ => resolve_eq_ok_iff, fun _ => resolve_eq_error_iff,
    fun _ _ tightens => tightens.resolve_eq_ok, fun _ same => same.resolve_eq⟩

end AccessRules

end RegisterGateway
