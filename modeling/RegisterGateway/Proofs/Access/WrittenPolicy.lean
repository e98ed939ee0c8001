import RegisterGateway.Access.PolicyForm
import RegisterGateway.Proofs.Document.Data
import RegisterGateway.Proofs.Json.Members
import RegisterGateway.Proofs.Json.Values

/-!
# Policies survive being written

A policy is read back as it was, whatever shape its parts have. An object may say the same policy in
several ways, with keys repeated, members in any order and others beside them that have no meaning;
what is written for the policy is the one form that is left as it is when it is read and written
again.
-/

namespace RegisterGateway

open Document (Datum DecodeError orMalformed orMalformed_eq_ok_iff)
open Json (IsOnly named named_cons_self named_cons_other)

section Keys

variable {κ : Type} [LT κ]

/-! ## Written selectors -/

namespace Selector

variable {item : κ → Json.Value} {value : Json.Value}

/-- A written selector: the word for everything, or a list of keys in order, none of them
repeated. -/
inductive IsNormal (item : κ → Json.Value) : Json.Value → Prop
  | all : IsNormal item (.string everything)
  | listed {keys : List κ} (increasing : keys.Pairwise (· < ·)) :
      IsNormal item (.array (keys.map item))

theorem isNormal_toJson (selector : Selector κ) : IsNormal item (selector.toJson item) := by
  cases selector with
  | all => exact .all
  | listed keys => exact .listed keys.increasing

theorem IsNormal.exists_toJson (normal : IsNormal item value) :
    ∃ selector : Selector κ, selector.toJson item = value := by
  cases normal with
  | all => exact ⟨.all, rfl⟩
  | @listed keys increasing => exact ⟨.listed ⟨keys, increasing⟩, rfl⟩

end Selector

/-! ## Sets of keys -/

variable [LE κ] [Std.IsLinearOrder κ] [Std.LawfulOrderLT κ]

/-- Sets with the same elements are the same. -/
theorem KeySet.eq_of_mem_iff {first second : KeySet κ}
    (same : ∀ key, key ∈ first.elements ↔ key ∈ second.elements) : first = second := by
  have elements := first.increasing.eq_of_mem_iff second.increasing same
  cases first
  cases second
  cases elements
  rfl

variable [DecidableEq κ] [DecidableLT κ]

/-- The set of the elements of a set is this set. -/
theorem KeySet.ofList_elements (keys : KeySet κ) : KeySet.ofList keys.elements = keys :=
  KeySet.eq_of_mem_iff fun key => KeySet.mem_ofList key keys.elements

/-! ## Selectors that are read -/

namespace Selector

/-- What a selector is read from: the word for everything, or a list of its keys, in any order and
any number of times. A list is told from the word, also if it lists that word. -/
inductive Means (item : κ → Json.Value) : Json.Value → Selector κ → Prop
  | all : Means item (.string everything) .all
  | listed (keys : List κ) : Means item (.array (keys.map item)) (.listed (KeySet.ofList keys))

variable {item? : Datum → Option κ} {item : κ → Json.Value} {selector : Selector κ}
  {value : Json.Value}

theorem ofDatum_eq_ok_iff
    (reads : ∀ datum key, item? datum = some key ↔ datum.toJson = item key)
    {refused : String → DecodeError} {datum : Datum} :
    ofDatum item? refused datum = .ok selector ↔ Means item datum.toJson selector := by
  have ofList (noText : ∀ word, datum ≠ .text word) :
      ofDatum item? refused datum =
        (orMalformed (datum.listOf? item?)).map fun keys => .listed (KeySet.ofList keys) := by
    cases datum with
    | text word => exact absurd rfl (noText word)
    | _ => rfl
  constructor
  · intro read
    by_cases isText : ∃ word, datum = .text word
    · obtain ⟨word, rfl⟩ := isText
      rw [ofDatum] at read
      split at read
      · rename_i isAll
        cases read
        rw [isAll]
        exact .all
      · contradiction
    · rw [ofList fun word same => isText ⟨word, same⟩, map_eq_ok_iff] at read
      obtain ⟨keys, found, rfl⟩ := read
      rw [orMalformed_eq_ok_iff, Datum.listOf?_eq_some_iff reads] at found
      rw [found]
      exact .listed keys
  · intro means
    generalize written : datum.toJson = value at means
    cases means with
    | all =>
        obtain rfl := Datum.eq_text_of_toJson written
        rfl
    | listed keys =>
        have noText : ∀ word, datum ≠ .text word := by
          rintro word rfl
          contradiction
        rw [ofList noText, (Datum.listOf?_eq_some_iff reads).2 written]
        rfl

theorem Means.exists_datum (each : ∀ key, ∃ datum, Datum.ofJson? (item key) = some datum)
    (means : Means item value selector) : ∃ datum, Datum.ofJson? value = some datum := by
  cases means with
  | all => exact ⟨.text everything, rfl⟩
  | listed keys => exact Datum.exists_ofJson?_array_map each keys

/-- A selector is read from JSON by way of a datum. -/
theorem ofJson_bind_eq_ok_iff
    (reads : ∀ datum key, item? datum = some key ↔ datum.toJson = item key)
    (each : ∀ key, ∃ datum, Datum.ofJson? (item key) = some datum)
    {refused : String → DecodeError} :
    Datum.ofJson value >>= ofDatum item? refused = .ok selector ↔ Means item value selector := by
  refine Datum.ofJson_bind_eq_ok_iff (Means.exists_datum each) fun datum written => ?_
  rw [ofDatum_eq_ok_iff reads, written]

theorem means_toJson (selector : Selector κ) : Means item (selector.toJson item) selector := by
  cases selector with
  | all => exact .all
  | listed keys =>
      have means : Means item _ _ := .listed keys.elements
      rwa [KeySet.ofList_elements] at means

/-- A selector lets a key through if it is read from the word for everything, or from a list with
this key. -/
theorem Means.selects_iff (distinct : Function.Injective item)
    (means : Means item value selector) (key : κ) :
    selector.selects key = true ↔
      value = .string everything ∨ ∃ elements, value = .array elements ∧ item key ∈ elements := by
  cases means with
  | all => simp [selects]
  | listed keys =>
      simp [selects, KeySet.contains, KeySet.mem_ofList, Json.Value.string,
        distinct.eq_iff]

end Selector

end Keys

/-! ## Fields -/

section Fields

variable {α : Type} {read : Json.Value → Except DecodeError α} {name : String}
  {members : List (Option String × Json.Value)} {before after : Option α}

/-- What some members make of a field: it is left as it is if none of them has its name, and it is
read from the only one that has, if it has not been read before. -/
inductive Fills (read : Json.Value → Except DecodeError α) (name : String)
    (members : List (Option String × Json.Value)) : Option α → Option α → Prop
  | left {field : Option α} (absent : named name members = []) :
      Fills read name members field field
  | taken {value : Json.Value} {result : α} (only : IsOnly members name value)
      (reads : read value = .ok result) : Fills read name members none (some result)

theorem fills_nil_iff : Fills read name [] before after ↔ before = after := by
  constructor
  · rintro (_ | only)
    · rfl
    · contradiction
  · rintro rfl
    exact .left rfl

theorem fills_cons_self {value : Json.Value} :
    Fills read name ((some name, value) :: members) before after ↔
      ∃ next, once before (read value) = .ok next ∧ Fills read name members next after := by
  constructor
  · rintro (absent | ⟨only, reads⟩)
    · rw [named_cons_self] at absent
      contradiction
    · rw [IsOnly, named_cons_self, List.cons.injEq, Prod.mk.injEq] at only
      obtain ⟨⟨-, rfl⟩, absent⟩ := only
      exact ⟨_, by rw [once, reads]; rfl, .left absent⟩
  · rintro ⟨next, first, others⟩
    cases before with
    | some earlier => contradiction
    | none =>
        obtain ⟨result, reads, rfl⟩ := map_eq_ok_iff.1 first
        cases others with
        | left absent => exact .taken (by rw [IsOnly, named_cons_self, absent]) reads

theorem fills_cons_other {other : String} {value : Json.Value} (different : other ≠ name) :
    Fills read name ((some other, value) :: members) before after ↔
      Fills read name members before after := by
  have same : named name ((some other, value) :: members) = named name members :=
    named_cons_other (by simpa using different)
  constructor
  · rintro (absent | ⟨only, reads⟩)
    · exact .left (same.symm.trans absent)
    · exact .taken (same.symm.trans only) reads
  · rintro (absent | ⟨only, reads⟩)
    · exact .left (same.trans absent)
    · exact .taken (same.trans only) reads

/-- A field is there in the end if it has been read from the only member of its name. -/
theorem fills_some_iff {means : Json.Value → α → Prop}
    (reads : ∀ {value result}, read value = .ok result ↔ means value result) {result : α} :
    Fills read name members none (some result) ↔
      ∃ value, IsOnly members name value ∧ means value result := by
  constructor
  · rintro (_ | ⟨only, found⟩)
    exact ⟨_, only, reads.1 found⟩
  · rintro ⟨value, only, meant⟩
    exact .taken only (reads.2 meant)

/-- A field that may be missing has been read from the only member of its name, or there is none. -/
theorem exists_fills_iff {means : Json.Value → α → Prop}
    (reads : ∀ {value result}, read value = .ok result ↔ means value result) {missing result : α} :
    (∃ field, Fills read name members none field ∧ field.getD missing = result) ↔
      (∃ value, IsOnly members name value ∧ means value result) ∨
        result = missing ∧ named name members = [] := by
  constructor
  · rintro ⟨_, absent | ⟨only, found⟩, rfl⟩
    · exact .inr ⟨rfl, absent⟩
    · exact .inl ⟨_, only, reads.1 found⟩
  · rintro (⟨value, only, meant⟩ | ⟨rfl, absent⟩)
    · exact ⟨some result, .taken only (reads.2 meant), rfl⟩
    · exact ⟨none, .left absent, rfl⟩

/-- Members are read one after the other, if each has a name, as a relation that is known of none of
them and of one in front of others. -/
theorem foldlM_members_eq_ok_iff {β : Type} {take : β → String → Json.Value → Except DecodeError β}
    {leads : List (Option String × Json.Value) → β → β → Prop}
    (nil : ∀ {first last}, leads [] first last ↔ first = last)
    (cons : ∀ {name value rest first last}, leads ((some name, value) :: rest) first last ↔
      ∃ next, take first name value = .ok next ∧ leads rest next last) {first last : β} :
    members.foldlM (fun state member => do
        let name ← orMalformed member.1
        take state name member.2) first = .ok last ↔
      (∀ value, (none, value) ∉ members) ∧ leads members first last := by
  induction members generalizing first with
  | nil =>
      rw [List.foldlM_nil, nil]
      simp [pure, Except.pure]
  | cons member rest ih =>
      rw [List.foldlM_cons, bind_eq_ok_iff]
      simp only [ih]
      obtain ⟨_ | name, value⟩ := member
      · constructor
        · rintro ⟨next, taken, -⟩
          contradiction
        · rintro ⟨texts, -⟩
          exact absurd List.mem_cons_self (texts value)
      · have texts : (∀ other, (none, other) ∉ (some name, value) :: rest) ↔
            ∀ other, (none, other) ∉ rest := by simp
        change (∃ next, take first name value = .ok next ∧ _) ↔ _
        rw [texts, cons]
        grind

end Fields

/-! ## Lists of function codes -/

namespace FunctionCodeAcl

theorem codesOfJson_eq_ok_iff {value : Json.Value} {codes : List UInt8} :
    codesOfJson value = .ok codes ↔ value = codesToJson codes := by
  refine Datum.ofJson_bind_eq_ok_iff (fun written => ?_) fun datum written => ?_
  · rw [written]
    exact Datum.exists_ofJson?_array_map (fun _ => ⟨_, rfl⟩) codes
  · rw [codesOfDatum, orMalformed_eq_ok_iff,
      Datum.listOf?_eq_some_iff fun _ _ => Datum.byte?_eq_some_iff, written, codesToJson]

/-- What some members make of a draft. -/
@[mk_iff grows_iff]
structure Draft.Grows (members : List (Option String × Json.Value)) (before after : Draft) :
    Prop where
  allow : Fills codesOfJson "allow" members before.allow after.allow
  deny : Fills codesOfJson "deny" members before.deny after.deny

theorem Draft.grows_nil_iff {before after : Draft} : Grows [] before after ↔ before = after := by
  cases before
  cases after
  simp [grows_iff, fills_nil_iff]

/-- A member is read by its name, or it is passed over. -/
theorem Draft.grows_cons_iff {name : String} {value : Json.Value}
    {rest : List (Option String × Json.Value)} {before after : Draft} :
    Grows ((some name, value) :: rest) before after ↔
      ∃ next, before.read codesOfJson (fun _ => .ok ()) name value = .ok next ∧
        Grows rest next after := by
  unfold Draft.read
  simp only [grows_iff]
  -- One case for each name that is known, and one for all the others.
  split
  · rw [exists_bind_pure_eq_ok_iff, fills_cons_self, fills_cons_other (by decide)]
    grind
  · rw [exists_bind_pure_eq_ok_iff, fills_cons_self, fills_cons_other (by decide)]
    grind
  · rename_i noAllow noDeny
    rw [fills_cons_other noAllow, fills_cons_other noDeny]
    simp [pure, Except.pure, bind, Except.bind]

/-- What an object lists under a name, in order and with repetitions; without a member of this name,
nothing. -/
def Lists (members : List (Option String × Json.Value)) (name : String) (codes : List UInt8) :
    Prop :=
  IsOnly members name (codesToJson codes) ∨ codes = [] ∧ named name members = []

/-- What lists of function codes are read from: null for none at all, an object of the two lists, or
an array of them, which may end early. -/
inductive Means : Json.Value → Option FunctionCodeAcl → Prop
  | nothing : Means .null none
  | object {members : List (Option String × Json.Value)} {acl : FunctionCodeAcl}
      (texts : ∀ value, (none, value) ∉ members)
      (allow : Lists members "allow" acl.allow) (deny : Lists members "deny" acl.deny) :
      Means (.object members) (some acl)
  | empty : Means (.array []) (some {})
  | allowed (allow : List UInt8) : Means (.array [codesToJson allow]) (some ⟨allow, []⟩)
  | both (allow deny : List UInt8) :
      Means (.array [codesToJson allow, codesToJson deny]) (some ⟨allow, deny⟩)

theorem lists_iff {members : List (Option String × Json.Value)} {name : String}
    {codes : List UInt8} :
    Lists members name codes ↔
      ∃ field, Fills codesOfJson name members none field ∧ field.getD [] = codes := by
  rw [exists_fills_iff codesOfJson_eq_ok_iff, exists_eq_right, Lists]

theorem ofFields_eq_ok_iff {members : List (Option String × Json.Value)} {acl : FunctionCodeAcl} :
    ofFields codesOfJson members = .ok acl ↔
      (∀ value, (none, value) ∉ members) ∧ Lists members "allow" acl.allow ∧
        Lists members "deny" acl.deny := by
  rw [ofFields, bind_eq_ok_iff]
  simp only [foldlM_members_eq_ok_iff Draft.grows_nil_iff Draft.grows_cons_iff, lists_iff]
  constructor
  · rintro ⟨draft, ⟨texts, grows⟩, same⟩
    cases same
    exact ⟨texts, ⟨_, grows.allow, rfl⟩, _, grows.deny, rfl⟩
  · rintro ⟨texts, ⟨allow, takenAllow, isAllow⟩, deny, takenDeny, isDeny⟩
    refine ⟨⟨allow, deny⟩, ⟨texts, takenAllow, takenDeny⟩, ?_⟩
    rw [Draft.complete, isAllow, isDeny]
    rfl

theorem ofValues_eq_ok_iff {elements : List Json.Value} {acl : FunctionCodeAcl} :
    ofValues codesOfJson elements = .ok acl ↔ Means (.array elements) (some acl) := by
  constructor
  · intro read
    match elements with
    | [] =>
        cases read
        exact .empty
    | [first] =>
        obtain ⟨allow, reads, rfl⟩ := map_eq_ok_iff.1 read
        rw [codesOfJson_eq_ok_iff.1 reads]
        exact .allowed allow
    | [first, second] =>
        obtain ⟨allow, reads, others⟩ := bind_eq_ok_iff.1 read
        obtain ⟨deny, alsoReads, same⟩ := bind_eq_ok_iff.1 others
        cases same
        rw [codesOfJson_eq_ok_iff.1 reads, codesOfJson_eq_ok_iff.1 alsoReads]
        exact .both allow deny
    | _ :: _ :: _ :: _ => contradiction
  · intro means
    cases means with
    | empty => rfl
    | allowed allow =>
        rw [ofValues, codesOfJson_eq_ok_iff.2 rfl]
        rfl
    | both allow deny =>
        rw [ofValues, codesOfJson_eq_ok_iff.2 rfl, codesOfJson_eq_ok_iff.2 rfl]
        rfl

/-- Lists of function codes are read from what means them, and from nothing else. -/
theorem ofJson_eq_ok_iff {value : Json.Value} {codes : Option FunctionCodeAcl} :
    ofJson value = .ok codes ↔ Means value codes := by
  cases value with
  | null =>
      constructor
      · rintro ⟨⟩
        exact .nothing
      · rintro ⟨⟩
        rfl
  | object members =>
      rw [ofJson, map_eq_ok_iff]
      constructor
      · rintro ⟨acl, read, rfl⟩
        obtain ⟨texts, allow, deny⟩ := ofFields_eq_ok_iff.1 read
        exact .object texts allow deny
      · rintro (_ | ⟨texts, allow, deny⟩)
        exact ⟨_, ofFields_eq_ok_iff.2 ⟨texts, allow, deny⟩, rfl⟩
  | array elements =>
      rw [ofJson, map_eq_ok_iff]
      constructor
      · rintro ⟨acl, read, rfl⟩
        exact ofValues_eq_ok_iff.1 read
      · intro means
        cases codes with
        | some acl => exact ⟨acl, ofValues_eq_ok_iff.2 means, rfl⟩
        | none => contradiction
  | bool | integer | decimal | text => exact ⟨nofun, nofun⟩

/-- Lists are read as they are written: those that are left out are empty, and nothing else is. -/
theorem means_toJson (acl : FunctionCodeAcl) : Means acl.toJson (some acl) := by
  obtain ⟨allow, deny⟩ := acl
  refine .object ?_ ?_ ?_ <;> cases allow <;> cases deny <;>
    simp [Lists, IsOnly, named, memberOf]

end FunctionCodeAcl

/-! ## Access modes -/

namespace AccessMode

/-- What an access mode is read from: its word, or an object of nothing but the word and null. -/
inductive Means : Json.Value → AccessMode → Prop
  | word (mode : AccessMode) : Means (.string mode.word) mode
  | member (mode : AccessMode) : Means (.object [(some mode.word, .null)]) mode

theorem ofWord?_eq_some_iff {word : String} {mode : AccessMode} :
    ofWord? word = some mode ↔ mode.word = word := by
  constructor
  · intro found
    unfold ofWord? at found
    simpa using List.find?_some found
  · rintro rfl
    exact ofWord?_word mode

theorem ofJson_bind_eq_ok_iff {value : Json.Value} {mode : AccessMode} :
    Datum.ofJson value >>= ofDatum Datum.isNull = .ok mode ↔ Means value mode := by
  rw [bind_eq_ok_iff]
  constructor
  · rintro ⟨datum, taken, read⟩
    rw [Datum.ofJson_eq_ok_iff] at taken
    match datum with
    | .text word =>
        rw [← Datum.toJson_of_ofJson? value taken,
          ← ofWord?_eq_some_iff.1 (orMalformed_eq_ok_iff.1 read)]
        exact .word mode
    | .map [(key, item)] =>
        obtain ⟨name, inner, rfl, rfl, isItem⟩ := Datum.exists_member_of_ofJson? taken
        rw [ofDatum] at read
        split at read
        · rename_i isNull
          obtain rfl := Datum.isNull_eq_true_iff.1 isNull
          rw [← Datum.toJson_of_ofJson? inner isItem,
            ← ofWord?_eq_some_iff.1 (orMalformed_eq_ok_iff.1 read)]
          exact .member mode
        · contradiction
    | .null | .bool _ | .integer _ | .negativeZero | .decimal | .list _ | .map []
    | .map (_ :: _ :: _) => contradiction
  · rintro (_ | _)
    · exact ⟨.text mode.word, rfl, orMalformed_eq_ok_iff.2 (ofWord?_word mode)⟩
    · exact ⟨.map [(.text mode.word, .null)], rfl, orMalformed_eq_ok_iff.2 (ofWord?_word mode)⟩

end AccessMode

/-! ## Policies -/

namespace PortPolicy

/-- What some members make of a draft. -/
@[mk_iff grows_iff]
structure Draft.Grows (members : List (Option String × Json.Value)) (before after : Draft) :
    Prop where
  unitIds : Fills (FieldReader.unitIds .ofJson) "unit_ids" members before.unitIds after.unitIds
  memories : Fills (FieldReader.memories .ofJson) "memories" members before.memories after.memories
  access : Fills FieldReader.ofJson.access "access" members before.access after.access
  functionCodes : Fills FieldReader.ofJson.functionCodes "function_codes" members
    before.functionCodes after.functionCodes

theorem Draft.grows_nil_iff {before after : Draft} : Grows [] before after ↔ before = after := by
  cases before
  cases after
  simp [grows_iff, fills_nil_iff]

/-- A member is read by its name, or it is passed over. -/
theorem Draft.grows_cons_iff {name : String} {value : Json.Value}
    {rest : List (Option String × Json.Value)} {before after : Draft} :
    Grows ((some name, value) :: rest) before after ↔
      ∃ next, before.read .ofJson name value = .ok next ∧ Grows rest next after := by
  unfold Draft.read
  simp only [grows_iff]
  -- One case for each name that is known, and one for all the others.
  split
  · rw [exists_bind_pure_eq_ok_iff]
    simp (disch := decide) only [fills_cons_self, fills_cons_other]
    grind
  · rw [exists_bind_pure_eq_ok_iff]
    simp (disch := decide) only [fills_cons_self, fills_cons_other]
    grind
  · rw [exists_bind_pure_eq_ok_iff]
    simp (disch := decide) only [fills_cons_self, fills_cons_other]
    grind
  · rw [exists_bind_pure_eq_ok_iff]
    simp (disch := decide) only [fills_cons_self, fills_cons_other]
    grind
  · rename_i noUnitIds noMemories noAccess noFunctionCodes
    rw [fills_cons_other noUnitIds, fills_cons_other noMemories, fills_cons_other noAccess,
      fills_cons_other noFunctionCodes]
    simp [FieldReader.ofJson, pure, Except.pure, bind, Except.bind]

/-- A draft is complete if no required field is missing. -/
theorem Draft.complete_eq_ok_iff {draft : Draft} {policy : PortPolicy} :
    draft.complete = .ok policy ↔
      draft.unitIds = some policy.unitIds ∧ draft.memories = some policy.memories ∧
        draft.access = some policy.access ∧
        draft.functionCodes.getD none = policy.functionCodes := by
  obtain ⟨unitIds, memories, access, functionCodes⟩ := policy
  obtain ⟨_ | _, _ | _, _ | _, _⟩ := draft <;> simp [complete]

/-- What a policy is read from: an object that holds all of it, or all but the function codes. What
else it holds has no meaning, but every name must be a text. -/
structure Means (members : List (Option String × Json.Value)) (policy : PortPolicy) : Prop where
  texts : ∀ value, (none, value) ∉ members
  unitIds : ∃ value, IsOnly members "unit_ids" value ∧
    Selector.Means (fun unit => .nat unit.toNat) value policy.unitIds
  memories : ∃ value, IsOnly members "memories" value ∧
    Selector.Means .string value policy.memories
  access : ∃ value, IsOnly members "access" value ∧ AccessMode.Means value policy.access
  functionCodes :
    (∃ value, IsOnly members "function_codes" value ∧
      FunctionCodeAcl.Means value policy.functionCodes) ∨
    policy.functionCodes = none ∧ named "function_codes" members = []

theorem unitIds_eq_ok_iff {value : Json.Value} {units : Selector UInt8} :
    FieldReader.unitIds .ofJson value = .ok units ↔
      Selector.Means (fun unit => .nat unit.toNat) value units :=
  Selector.ofJson_bind_eq_ok_iff (fun _ _ => Datum.byte?_eq_some_iff) fun _ => ⟨_, rfl⟩

theorem memories_eq_ok_iff {value : Json.Value} {memories : Selector String} :
    FieldReader.memories .ofJson value = .ok memories ↔ Selector.Means .string value memories :=
  Selector.ofJson_bind_eq_ok_iff (fun _ _ => Datum.text?_eq_some_iff) fun _ => ⟨_, rfl⟩

/-- A policy is read from the objects that mean it, and from no others. -/
theorem ofJson_object_eq_ok_iff {members : List (Option String × Json.Value)}
    {policy : PortPolicy} : ofJson (.object members) = .ok policy ↔ Means members policy := by
  rw [ofJson, ofFields, bind_eq_ok_iff]
  simp only [foldlM_members_eq_ok_iff Draft.grows_nil_iff Draft.grows_cons_iff,
    Draft.complete_eq_ok_iff]
  constructor
  · rintro ⟨⟨unitIds, memories, access, functionCodes⟩, ⟨texts, grows⟩, rfl, rfl, rfl, codes⟩
    exact {
      texts
      unitIds := (fills_some_iff unitIds_eq_ok_iff).1 grows.unitIds
      memories := (fills_some_iff memories_eq_ok_iff).1 grows.memories
      access := (fills_some_iff AccessMode.ofJson_bind_eq_ok_iff).1 grows.access
      functionCodes :=
        (exists_fills_iff FunctionCodeAcl.ofJson_eq_ok_iff).1 ⟨_, grows.functionCodes, codes⟩ }
  · intro means
    obtain ⟨codes, ofCodes, isCodes⟩ :=
      (exists_fills_iff FunctionCodeAcl.ofJson_eq_ok_iff).2 means.functionCodes
    exact ⟨⟨some policy.unitIds, some policy.memories, some policy.access, codes⟩,
      ⟨means.texts,
        { unitIds := (fills_some_iff unitIds_eq_ok_iff).2 means.unitIds
          memories := (fills_some_iff memories_eq_ok_iff).2 means.memories
          access := (fills_some_iff AccessMode.ofJson_bind_eq_ok_iff).2 means.access
          functionCodes := ofCodes }⟩, rfl, rfl, rfl, isCodes⟩

/-! ### Written policies -/

/-- A policy means itself as it is written. -/
theorem ofJson_toJson (policy : PortPolicy) : ofJson policy.toJson = .ok policy := by
  refine ofJson_object_eq_ok_iff.2 ?_
  obtain ⟨unitIds, memories, access, functionCodes⟩ := policy
  cases functionCodes with
  | none =>
      exact {
        texts := by simp
        unitIds := ⟨_, rfl, Selector.means_toJson unitIds⟩
        memories := ⟨_, rfl, Selector.means_toJson memories⟩
        access := ⟨_, rfl, .word access⟩
        functionCodes := .inr ⟨rfl, rfl⟩ }
  | some acl =>
      exact {
        texts := by simp
        unitIds := ⟨_, rfl, Selector.means_toJson unitIds⟩
        memories := ⟨_, rfl, Selector.means_toJson memories⟩
        access := ⟨_, rfl, .word access⟩
        functionCodes := .inl ⟨_, rfl, acl.means_toJson⟩ }

/-- The written form of a policy: selectors in their written form, and the lists of function codes
only where there are some, an empty list being left out. -/
inductive IsNormal : Json.Value → Prop
  | plain {units memories : Json.Value} (access : AccessMode)
      (unitsNormal : Selector.IsNormal (fun unit : UInt8 => .nat unit.toNat) units)
      (memoriesNormal : Selector.IsNormal Json.Value.string memories) :
      IsNormal (.object [(some "unit_ids", units), (some "memories", memories),
        (some "access", .string access.word)])
  | withCodes {units memories : Json.Value} (access : AccessMode)
      (unitsNormal : Selector.IsNormal (fun unit : UInt8 => .nat unit.toNat) units)
      (memoriesNormal : Selector.IsNormal Json.Value.string memories) (allow deny : List UInt8) :
      IsNormal (.object [(some "unit_ids", units), (some "memories", memories),
        (some "access", .string access.word), (some "function_codes",
          .object (FunctionCodeAcl.memberOf "allow" allow ++
            FunctionCodeAcl.memberOf "deny" deny))])

/-- The written forms are those of the policies. -/
theorem isNormal_iff {value : Json.Value} :
    IsNormal value ↔ ∃ policy : PortPolicy, policy.toJson = value := by
  constructor
  · intro normal
    cases normal with
    | plain access unitsNormal memoriesNormal =>
        obtain ⟨unitIds, rfl⟩ := unitsNormal.exists_toJson
        obtain ⟨memories, rfl⟩ := memoriesNormal.exists_toJson
        exact ⟨⟨unitIds, memories, access, none⟩, rfl⟩
    | withCodes access unitsNormal memoriesNormal allow deny =>
        obtain ⟨unitIds, rfl⟩ := unitsNormal.exists_toJson
        obtain ⟨memories, rfl⟩ := memoriesNormal.exists_toJson
        exact ⟨⟨unitIds, memories, access, some ⟨allow, deny⟩⟩, rfl⟩
  · rintro ⟨⟨unitIds, memories, access, functionCodes⟩, rfl⟩
    cases functionCodes with
    | none => exact .plain access unitIds.isNormal_toJson memories.isNormal_toJson
    | some acl =>
        exact .withCodes access unitIds.isNormal_toJson memories.isNormal_toJson acl.allow acl.deny

/-! ### Reading and writing -/

/-- Two policies let the same units, memories and function codes through. -/
structure PermitsAlike (first second : PortPolicy) : Prop where
  unitIds : ∀ unit, first.unitIds.selects unit = second.unitIds.selects unit
  memories : ∀ key, first.memories.selects key = second.memories.selects key
  functionCodes : ∀ code, first.allowsFunctionCode code = second.allowsFunctionCode code

/-- What holds of an object and the policy that is read from it. -/
structure Normalises (members : List (Option String × Json.Value)) (policy : PortPolicy) :
    Prop where
  unitIds : ∀ unit, policy.unitIds.selects unit = true ↔
    (some "unit_ids", .string "all") ∈ members ∨
      ∃ elements, (some "unit_ids", .array elements) ∈ members ∧ .nat unit.toNat ∈ elements
  memories : ∀ key, policy.memories.selects key = true ↔
    (some "memories", .string "all") ∈ members ∨
      ∃ elements, (some "memories", .array elements) ∈ members ∧ .string key ∈ elements
  normal : IsNormal policy.toJson
  again : ∃ again : PortPolicy, ofJson policy.toJson = .ok again ∧
    again.toJson = policy.toJson ∧ again.PermitsAlike policy

/-- What an object lets through is what the selector does that is read from its only member. -/
theorem selects_iff_of_isOnly {κ : Type} [LT κ] [LE κ] [Std.IsLinearOrder κ] [Std.LawfulOrderLT κ]
    [DecidableEq κ] [DecidableLT κ] {item : κ → Json.Value} (distinct : Function.Injective item)
    {members : List (Option String × Json.Value)} {name : String} {selector : Selector κ}
    (found : ∃ value, IsOnly members name value ∧ Selector.Means item value selector) (key : κ) :
    selector.selects key = true ↔
      (some name, .string "all") ∈ members ∨
        ∃ elements, (some name, .array elements) ∈ members ∧ item key ∈ elements := by
  obtain ⟨value, only, means⟩ := found
  rw [means.selects_iff distinct]
  simp only [only.mem_iff, Selector.everything, eq_comm]

theorem Means.normalises {members : List (Option String × Json.Value)} {policy : PortPolicy}
    (means : Means members policy) : Normalises members policy where
  unitIds := selects_iff_of_isOnly (fun one other same => by
    simpa [Json.Value.nat, UInt8.toNat_inj] using same) means.unitIds
  memories := selects_iff_of_isOnly (fun one other same => by
    simpa [Json.Value.string] using same) means.memories
  normal := isNormal_iff.2 ⟨policy, rfl⟩
  again := ⟨policy, policy.ofJson_toJson, rfl, fun _ => rfl, fun _ => rfl, fun _ => rfl⟩

/-- A policy is read back from what is written for it, as a value and as a text. An object is read
as a policy if and only if it means it, whatever else it holds. It is brought into normal form by
writing this policy, which changes no meaning, and what is in normal form is written as it is
read. -/
theorem policies_survive_writing :
    (∀ policy : PortPolicy, ofJson policy.toJson = .ok policy ∧
      (Json.Value.ofBytes? policy.toJson.write).map ofJson = some (.ok policy)) ∧
    (∀ members policy, (ofJson (.object members) = .ok policy ↔ Means members policy) ∧
      (ofJson (.object members) = .ok policy → Normalises members policy)) ∧
    ∀ value, IsNormal value → ∃ policy, ofJson value = .ok policy ∧ policy.toJson = value := by
  refine ⟨fun policy => ⟨policy.ofJson_toJson, ?_⟩, fun members policy =>
    ⟨ofJson_object_eq_ok_iff, fun read => (ofJson_object_eq_ok_iff.1 read).normalises⟩,
    fun value normal => ?_⟩
  · rw [Json.Value.ofBytes?_write, Option.map_some, ofJson_toJson]
  · obtain ⟨policy, rfl⟩ := isNormal_iff.1 normal
    exact ⟨policy, policy.ofJson_toJson, rfl⟩

/-- An object with its fields in another order, with keys in disorder and repeated, one of them the
word for everything, and with members that have no meaning; some of these hold texts and names that
denote nothing. -/
def untidyMembers : List (Option String × Json.Value) :=
  [(some "memories", .array [.string "lab", .string "all", .string "lab"]),
    (some "access", .string "read-only"), (some "note", .text none),
    (some "function_codes",
      .object [(some "deny", .array [.nat 3, .nat 3]), (some "why", .object [(none, .null)]),
        (some "allow", .array [])]),
    (some "note", .array [.object [(none, .text none)]]),
    (some "unit_ids", .array [.nat 7, .nat 1])]

def tidyPolicy : PortPolicy where
  unitIds := .listed (.ofList [7, 1])
  memories := .listed (.ofList ["lab", "all"])
  access := .readOnly
  functionCodes := some ⟨[], [3, 3]⟩

/-- The keys are put in order, the codes are left as they are, and the empty list is left out. -/
theorem untidy_object_survives :
    ofJson (.object untidyMembers) = .ok tidyPolicy ∧ Normalises untidyMembers tidyPolicy ∧
      tidyPolicy.toJson = .object [(some "unit_ids", .array [.nat 1, .nat 7]),
        (some "memories", .array [.string "all", .string "lab"]),
        (some "access", .string "read-only"),
        (some "function_codes", .object [(some "deny", .array [.nat 3, .nat 3])])] := by
  have read : ofJson (.object untidyMembers) = .ok tidyPolicy := by decide +kernel
  exact ⟨read, (policies_survive_writing.2.1 untidyMembers tidyPolicy).2 read, rfl⟩

end PortPolicy

end RegisterGateway
