import Mathlib
import RegisterGateway.Ingest.Command
import RegisterGateway.Proofs.Json.Members
import RegisterGateway.Proofs.Json.Values

/-!
# Commands are read from whatever JSON they are written as

An object expresses a command if it has the members of the command, in any order, an empty list
under its name or not at all, and beside them any members with names that no command knows. The
texts of these objects, among them the text that is written for the command, and no texts of other
objects are read as it. So a member that stands there twice, or null in place of a list, is always
refused.
-/

namespace RegisterGateway.Ingest.Command

open Json (Value Spells bytesOf named named_append mem_named_iff perm_flatMap_named)

/-! ## Members that express a command -/

/-- The names of the members of a command. -/
def memberNames : List String :=
  ["memory", "area", "address", "bools", "values"]

/-- A member that a command does not know: its name is a text, but none of the five. -/
def IsForeign (member : Option String × Value) : Prop :=
  ∃ name ∉ memberNames, member.1 = some name

/-- How a list may be written among the members of an object: under its name or, if there is nothing
in it, not at all. -/
inductive WritesList (name : String) : List Value → List (Option String × Value) → Prop where
  | omitted : WritesList name [] []
  | listed (elements : List Value) : WritesList name elements [(some name, .array elements)]

/-- The elements of a list of bits. -/
def bitElements (command : Command) : List Value :=
  command.bools.map fun value => .integer value.toInt

/-- The elements of a list of words. -/
def wordElements (command : Command) : List Value :=
  command.values.map fun value => .nat value.toNat

/-- The members of an object express a command. -/
inductive WrittenAs (command : Command) (members : List (Option String × Value)) : Prop where
  | intro {bools values foreign : List (Option String × Value)}
      (writesBools : WritesList "bools" command.bitElements bools)
      (writesValues : WritesList "values" command.wordElements values)
      (areForeign : ∀ member ∈ foreign, IsForeign member)
      (inAnyOrder : members.Perm
        ([(some "memory", .string command.memory), (some "area", .string command.area),
          (some "address", .nat command.address.toNat)] ++ bools ++ values ++ foreign))

/-! ## Elements -/

theorem text?_eq_some_iff (value : Value) (content : String) :
    text? value = some content ↔ value = .string content := by
  cases value <;> simp [text?, Value.string]

theorem word?_eq_some_iff (value : Value) (word : UInt16) :
    word? value = some word ↔ value = .nat word.toNat := by
  cases value with
  | integer value =>
      simp only [word?, Option.ite_none_right_eq_some, Option.some.injEq, Value.nat,
        Value.integer.injEq]
      constructor
      · rintro ⟨⟨least, most⟩, rfl⟩
        rw [UInt16.toNat_ofNat_of_lt' (show value.toNat < 65536 by omega),
          Int.toNat_of_nonneg least]
      · rintro rfl
        have := word.toNat_lt
        exact ⟨by omega, by simp⟩
  | _ => simp [word?, Value.nat]

theorem signed?_eq_some_iff (value : Value) (word : Int64) :
    signed? value = some word ↔ value = .integer word.toInt := by
  cases value with
  | integer value =>
      simp only [signed?, Option.ite_none_right_eq_some, Option.some.injEq, Value.integer.injEq]
      constructor
      · rintro ⟨⟨least, most⟩, rfl⟩
        exact (Int64.toInt_ofInt_of_le least most).symm
      · rintro rfl
        exact ⟨⟨word.le_toInt, word.toInt_lt⟩, word.ofInt_toInt⟩
  | _ => simp [signed?]

/-- Elements are read as items if they are what is written for them. -/
theorem mapM_eq_some_iff {α : Type} {element? : Value → Option α} {written : α → Value}
    (inverse : ∀ value item, element? value = some item ↔ value = written item)
    {elements : List Value} {items : List α} :
    elements.mapM element? = some items ↔ elements = items.map written := by
  induction elements generalizing items with
  | nil =>
      rw [List.mapM_nil, eq_comm (a := []), List.map_eq_nil_iff]
      exact ⟨fun same => (Option.some.inj same).symm, fun same => congrArg some same.symm⟩
  | cons value rest ih =>
      simp only [List.mapM_cons, Option.bind_eq_bind, Option.bind_eq_some_iff, inverse, ih]
      constructor
      · rintro ⟨item, rfl, others, rfl, ⟨⟩⟩
        rfl
      · intro same
        obtain ⟨item, others, rfl, rfl, rfl⟩ := List.map_eq_cons_iff.1 same.symm
        exact ⟨item, rfl, others, rfl, rfl⟩

/-! ## Members of a name -/

section Named

variable {members : List (Option String × Value)} {name : String}

theorem any_eq_true_iff :
    members.any (fun member => member.1 = some name) = true ↔ named name members ≠ [] := by
  rw [Ne, named, List.filter_eq_nil_iff, List.any_eq_true]
  simp

theorem member?_eq_some_iff {value : Value} :
    member? name members = some value ↔ named name members = [(some name, value)] := by
  rw [member?, ← named]
  constructor
  · intro read
    split at read
    · rename_i member only
      have known : member ∈ named name members := only ▸ List.mem_singleton_self member
      rw [only, ← Option.some.inj read, ← (mem_named_iff.1 known).2]
    · contradiction
  · intro only
    rw [only]

theorem writesList_iff {elements : List Value} {listed : List (Option String × Value)} :
    WritesList name elements listed ↔
      elements = [] ∧ listed = [] ∨ listed = [(some name, .array elements)] := by
  constructor
  · rintro (_ | _)
    · exact .inl ⟨rfl, rfl⟩
    · exact .inr rfl
  · rintro (⟨rfl, rfl⟩ | rfl)
    · exact .omitted
    · exact .listed elements

theorem listMember?_eq_some_iff {α : Type} {element? : Value → Option α} {written : α → Value}
    (inverse : ∀ value item, element? value = some item ↔ value = written item) {items : List α} :
    listMember? element? name members = some items ↔
      WritesList name (items.map written) (named name members) := by
  rw [listMember?, writesList_iff, List.map_eq_nil_iff]
  by_cases absent : named name members = []
  · rw [if_neg (mt any_eq_true_iff.1 (not_not_intro absent)), absent, Option.some.injEq, eq_comm]
    simp
  · simp only [if_pos (any_eq_true_iff.2 absent), absent, and_false, false_or,
      Option.bind_eq_some_iff, member?_eq_some_iff]
    constructor
    · rintro ⟨value, only, read⟩
      cases value with
      | array elements => rw [only, (mapM_eq_some_iff inverse).1 read]
      | _ => contradiction
    · intro only
      exact ⟨_, only, (mapM_eq_some_iff inverse).2 rfl⟩

/-! ## What the members of each name are -/

theorem named_of_areForeign (known : name ∈ memberNames)
    (areForeign : ∀ member ∈ members, IsForeign member) : named name members = [] := by
  rw [named, List.filter_eq_nil_iff]
  intro member present
  obtain ⟨other, unknown, isOther⟩ := areForeign member present
  rw [isOther]
  simp only [Option.some.injEq, decide_eq_true_eq]
  rintro rfl
  exact unknown known

theorem named_of_writesList {elements : List Value} (writes : WritesList name elements members)
    (other : String) : named other members = if other = name then members else [] := by
  cases writes with
  | omitted => simp [named]
  | listed =>
      by_cases same : other = name
      · simp [named, same]
      · simp [named, same, Ne.symm same]

end Named

/-! ## Reading objects -/

section Objects

variable {command : Command} {members : List (Option String × Value)}

/-- What the members of each name are in an object that expresses a command. -/
structure Holds (command : Command) (members : List (Option String × Value)) : Prop where
  texts : ∀ value, (none, value) ∉ members
  memory : named "memory" members = [(some "memory", .string command.memory)]
  area : named "area" members = [(some "area", .string command.area)]
  address : named "address" members = [(some "address", .nat command.address.toNat)]
  bools : WritesList "bools" command.bitElements (named "bools" members)
  values : WritesList "values" command.wordElements (named "values" members)

theorem ofJson?_object_eq_some_iff :
    ofJson? (.object members) = some command ↔ Holds command members := by
  have texts : (¬ members.any (fun member => member.1.isNone) = true) ↔
      ∀ value, (none, value) ∉ members := by
    simp
  rw [ofJson?]
  split
  · rename_i nameless
    exact ⟨nofun, fun holds => absurd nameless (texts.2 holds.texts)⟩
  · rename_i nameless
    simp only [Option.bind_eq_bind, Option.bind_eq_some_iff, Option.pure_def, Option.some.injEq,
      member?_eq_some_iff, text?_eq_some_iff, word?_eq_some_iff,
      listMember?_eq_some_iff signed?_eq_some_iff, listMember?_eq_some_iff word?_eq_some_iff]
    constructor
    · rintro ⟨memory, ⟨_, isMemory, rfl⟩, area, ⟨_, isArea, rfl⟩, address, ⟨_, isAddress, rfl⟩,
        bools, writesBools, values, writesValues, rfl⟩
      exact ⟨texts.1 nameless, isMemory, isArea, isAddress, writesBools, writesValues⟩
    · intro holds
      exact ⟨_, ⟨_, holds.memory, rfl⟩, _, ⟨_, holds.area, rfl⟩, _, ⟨_, holds.address, rfl⟩,
        _, holds.bools, _, holds.values, rfl⟩

section Lists

variable {name : String} {elements : List Value} {listed : List (Option String × Value)}

theorem WritesList.length_le (writes : WritesList name elements listed) : listed.length ≤ 1 := by
  cases writes <;> simp

theorem WritesList.eq_of_mem (writes : WritesList name elements listed)
    {member : Option String × Value} (present : member ∈ listed) :
    member = (some name, .array elements) := by
  cases writes with
  | omitted => contradiction
  | listed => exact List.mem_singleton.1 present

theorem WritesList.perm (writes : WritesList name elements listed)
    (perm : members.Perm listed) : WritesList name elements members := by
  cases writes with
  | omitted =>
      rw [perm.eq_nil]
      exact .omitted
  | listed =>
      rw [perm.eq_singleton]
      exact .listed elements

end Lists

theorem WrittenAs.holds (written : WrittenAs command members) : Holds command members := by
  obtain @⟨bools, values, foreign, writesBools, writesValues, areForeign, inAnyOrder⟩ := written
  have listed (name : String) (known : name ∈ memberNames) :
      (named name members).Perm (named name [(some "memory", .string command.memory),
          (some "area", .string command.area), (some "address", .nat command.address.toNat)] ++
        (if name = "bools" then bools else []) ++ if name = "values" then values else []) := by
    have perm := inAnyOrder.filter fun member => member.1 = some name
    rwa [← named, ← named, named_append, named_append, named_append,
      named_of_writesList writesBools, named_of_writesList writesValues,
      named_of_areForeign known areForeign, List.append_nil] at perm
  constructor
  · intro value present
    simp only [inAnyOrder.mem_iff, List.mem_append, List.mem_cons, List.not_mem_nil,
      Prod.mk.injEq, reduceCtorEq, false_and, or_false, false_or] at present
    rcases present with (isBool | isValue) | other
    · cases writesBools.eq_of_mem isBool
    · cases writesValues.eq_of_mem isValue
    · obtain ⟨name, -, same⟩ := areForeign _ other
      contradiction
  · exact List.perm_singleton.1 (by simpa [named] using listed "memory" (by decide))
  · exact List.perm_singleton.1 (by simpa [named] using listed "area" (by decide))
  · exact List.perm_singleton.1 (by simpa [named] using listed "address" (by decide))
  · exact writesBools.perm (by simpa [named] using listed "bools" (by decide))
  · exact writesValues.perm (by simpa [named] using listed "values" (by decide))

theorem Holds.writtenAs (holds : Holds command members) : WrittenAs command members := by
  have perm := perm_flatMap_named (by decide : memberNames.Nodup) members
  have listed : (memberNames.flatMap fun name => named name members) =
      [(some "memory", .string command.memory), (some "area", .string command.area),
        (some "address", .nat command.address.toNat)] ++ named "bools" members ++
        named "values" members := by
    simp only [memberNames, List.flatMap_cons, List.flatMap_nil, holds.memory, holds.area,
      holds.address, List.append_nil, List.cons_append, List.nil_append]
  rw [listed] at perm
  refine .intro holds.bools holds.values (fun member present => ?_) perm
  simp only [List.mem_filter, decide_eq_true_eq] at present
  obtain ⟨present, unknown⟩ := present
  match member, present with
  | (none, value), present => exact absurd present (holds.texts value)
  | (some name, value), _ => exact ⟨name, fun known => unknown name known rfl, rfl⟩

/-- An object is read as a command if and only if its members express the command. -/
theorem ofJson?_object_eq_some_iff_writtenAs :
    ofJson? (.object members) = some command ↔ WrittenAs command members :=
  ofJson?_object_eq_some_iff.trans ⟨Holds.writtenAs, WrittenAs.holds⟩

/-- Every member of a command stands there once at most. -/
theorem Holds.length_named_le (holds : Holds command members) {name : String}
    (known : name ∈ memberNames) : (named name members).length ≤ 1 := by
  simp only [memberNames, List.mem_cons, List.not_mem_nil, or_false] at known
  rcases known with rfl | rfl | rfl | rfl | rfl
  · rw [holds.memory, List.length_singleton]
  · rw [holds.area, List.length_singleton]
  · rw [holds.address, List.length_singleton]
  · exact holds.bools.length_le
  · exact holds.values.length_le

/-- Null does not stand in place of a list. -/
theorem Holds.not_null_mem (holds : Holds command members) {name : String}
    (list : name = "bools" ∨ name = "values") : (some name, Value.null) ∉ members := by
  intro present
  have present : (some name, Value.null) ∈ named name members := mem_named_iff.2 ⟨present, rfl⟩
  rcases list with rfl | rfl
  · exact nomatch holds.bools.eq_of_mem present
  · exact nomatch holds.values.eq_of_mem present

end Objects

/-- Null does not stand in place of a list in an array either. -/
theorem ofJson?_array_of_null {elements : List Value}
    (null : elements[3]? = some .null ∨ elements[4]? = some .null) :
    ofJson? (.array elements) = none := by
  match elements with
  | [] | [_] | [_, _] => rfl
  | memory :: area :: address :: rest =>
      have null : rest[0]? = some .null ∨ rest[1]? = some .null := null
      rw [ofJson?]
      split
      · rfl
      · rw [Option.eq_none_iff_forall_ne_some]
        intro command read
        simp only [Option.bind_eq_bind, Option.bind_eq_some_iff] at read
        obtain ⟨-, -, -, -, -, -, bools, readBools, values, readValues, -⟩ := read
        rcases null with null | null
        · rw [null] at readBools
          contradiction
        · rw [null] at readValues
          contradiction

/-! ## Written members -/

/-- What is written among the members for a list. -/
def listMembers (name : String) (elements : List Value) : List (Option String × Value) :=
  if elements.isEmpty then [] else [(some name, .array elements)]

theorem writesList_listMembers (name : String) (elements : List Value) :
    WritesList name elements (listMembers name elements) := by
  cases elements with
  | nil => exact .omitted
  | cons => exact .listed _

theorem listMembers_eq_nil_iff {name : String} {elements : List Value} :
    listMembers name elements = [] ↔ elements = [] := by
  simp [listMembers]

/-- The members that are written for a command. -/
def writtenMembers (command : Command) : List (Option String × Value) :=
  [(some "memory", .string command.memory), (some "area", .string command.area),
    (some "address", .nat command.address.toNat)] ++
    listMembers "bools" command.bitElements ++ listMembers "values" command.wordElements

theorem toJson_eq (command : Command) : command.toJson = .object command.writtenMembers := by
  simp only [toJson, Value.record, writtenMembers, listMembers, bitElements, wordElements,
    List.isEmpty_map, List.map_append, apply_ite (List.map _), List.map_cons, List.map_nil]

theorem writtenAs_writtenMembers (command : Command) : WrittenAs command command.writtenMembers :=
  @WrittenAs.intro command _ _ _ [] (writesList_listMembers ..) (writesList_listMembers ..) nofun
    (.of_eq (List.append_nil _).symm)

/-- A list is left out of what is written if there is nothing in it. -/
theorem named_writtenMembers (command : Command) :
    (named "bools" command.writtenMembers = [] ↔ command.bools = []) ∧
      (named "values" command.writtenMembers = [] ↔ command.values = []) := by
  have writesBools := writesList_listMembers "bools" command.bitElements
  have writesValues := writesList_listMembers "values" command.wordElements
  simp only [writtenMembers, named_append, named_of_writesList writesBools,
    named_of_writesList writesValues]
  simp [named, listMembers_eq_nil_iff, bitElements, wordElements]

/-! ## Texts -/

theorem ofBytes?_of_spells {bytes : List UInt8} {value : Value} (spells : Spells bytes value) :
    ofBytes? bytes = ofJson? value := by
  rw [ofBytes?, Value.ofBytes?_of_spells spells, Option.bind_some]

/-- What is written for a command, where empty lists are left out, is read as the command. The texts
of an object are read as a command if and only if its members express it: in any order, with empty
lists or without, and with any members of unknown names that are texts. A text is refused in which a
member is repeated, null stands in place of a list or a name is no text. -/
theorem commands_survive_writing :
    (∀ command : Command, ofBytes? command.toJson.write = some command ∧
      command.toJson = .object command.writtenMembers ∧
      (named "bools" command.writtenMembers = [] ↔ command.bools = []) ∧
      (named "values" command.writtenMembers = [] ↔ command.values = [])) ∧
    (∀ bytes members, Spells bytes (.object members) →
      (∀ command, ofBytes? bytes = some command ↔ WrittenAs command members) ∧
      (∀ name ∈ memberNames, 1 < (named name members).length → ofBytes? bytes = none) ∧
      (∀ name, name = "bools" ∨ name = "values" → (some name, .null) ∈ members →
        ofBytes? bytes = none) ∧
      ∀ value, (none, value) ∈ members → ofBytes? bytes = none) ∧
    ∀ bytes elements, Spells bytes (.array elements) →
      elements[3]? = some .null ∨ elements[4]? = some .null → ofBytes? bytes = none := by
  refine ⟨fun command => ⟨?_, command.toJson_eq, command.named_writtenMembers⟩,
    fun bytes members spells => ?_, fun bytes elements spells null => ?_⟩
  · rw [ofBytes?_of_spells (Json.spells_write _), toJson_eq]
    exact ofJson?_object_eq_some_iff_writtenAs.2 command.writtenAs_writtenMembers
  · have refused (never : ∀ command, ¬ Holds command members) : ofJson? (.object members) = none :=
      Option.eq_none_iff_forall_ne_some.2 fun command read =>
        never command (ofJson?_object_eq_some_iff.1 read)
    rw [ofBytes?_of_spells spells]
    exact ⟨fun command => ofJson?_object_eq_some_iff_writtenAs,
      fun name known repeated => refused fun command holds =>
        Nat.not_lt.2 (holds.length_named_le known) repeated,
      fun name list null => refused fun command holds => holds.not_null_mem list null,
      fun value nameless => refused fun command holds => holds.texts value nameless⟩
  · rw [ofBytes?_of_spells spells]
    exact ofJson?_array_of_null null

/-- The members of a command in another order, with an empty list and with a member of an unknown
name. -/
def untidyMembers : List (Option String × Value) :=
  [(some "area", .string "coils"), (some "note", .object [(none, .null)]),
    (some "values", .array []), (some "address", .nat 65535), (some "memory", .string "n")]

/-- A text of these members, in which a blank stands before a name and a character is escaped. -/
def untidyText : List UInt8 :=
  bytesOf ("\x7b\"area\":\"coils\", \"note\":\x7b\"\\ud800\":null\x7d,\"values\":[]," ++
    "\"address\":65535,\"memory\":\"\\u006e\"\x7d")

theorem spells_untidyText : Spells untidyText (.object untidyMembers) := by
  let tokens := (Value.object untidyMembers).tokens
  have blank : Json.IsSpace [0x20] := by simp [Json.IsSpace]
  have unit : Json.SpellsUnit [0x5C, 0x75, 0x30, 0x30, 0x36, 0x65] 'n'.toNat := ⟨by decide⟩
  have memory := Json.SpellsToken.text (.cons (.unit unit) .nil)
  have spelled := (Json.spellsAll_write (tokens.take 5)).append (.cons
    (.intro blank (Json.spellsToken_write (.text (some "note")))) ((Json.spellsAll_write
      ((tokens.drop 6).take 18)).append (.cons (.intro (nofun : Json.IsSpace []) memory)
        (Json.spellsAll_write [.closeObject]))))
  have spells := @Spells.intro _ [] (.object untidyMembers) spelled nofun
  refine Eq.mp (congrArg (Spells · _) ?_) spells
  decide +kernel

theorem writtenAs_untidyMembers : WrittenAs ⟨"n", "coils", 65535, [], []⟩ untidyMembers :=
  Holds.writtenAs ⟨by simp [untidyMembers], rfl, rfl, rfl, .omitted, .listed []⟩

/-- The text is read, but texts are refused that hold a member twice, null in place of a list or a
name that is no text. -/
theorem untidy_command_read :
    ofBytes? untidyText = some ⟨"n", "coils", 65535, [], []⟩ ∧
      ofBytes? (Value.object (untidyMembers ++ [(some "area", .null)])).write = none ∧
      ofBytes? (Value.object (untidyMembers ++ [(some "bools", .null)])).write = none ∧
      ofBytes? (Value.object (untidyMembers ++ [(none, .null)])).write = none ∧
      ofBytes? (Value.array [.string "n", .string "coils", .nat 65535, .null]).write = none := by
  obtain ⟨-, objects, arrays⟩ := commands_survive_writing
  have extended (member : Option String × Value) :=
    objects _ _ (Json.spells_write (.object (untidyMembers ++ [member])))
  exact ⟨((objects _ _ spells_untidyText).1 _).2 writtenAs_untidyMembers,
    (extended (some "area", .null)).2.1 "area" (by decide) (by decide),
    (extended (some "bools", .null)).2.2.1 "bools" (.inl rfl) (by simp),
    (extended (none, .null)).2.2.2 .null (by simp),
    arrays _ _ (Json.spells_write _) (.inl rfl)⟩

/-- A name that is no text is refused, whatever else the object holds. -/
theorem nameless_member_refused :
    let command : Command := ⟨"a", "coils", 1, [], []⟩
    let text := bytesOf
      "\x7b\"memory\":\"a\",\"area\":\"coils\",\"address\":1,\"\\ud800\":1\x7d"
    command.toJson = .object command.writtenMembers ∧
      Spells text (.object (command.writtenMembers ++ [(none, .nat 1)])) ∧
      ofBytes? text = none := by
  intro command text
  have spells : Spells text (.object (command.writtenMembers ++ [(none, .nat 1)])) := by
    refine Eq.mp (congrArg (Spells · _) ?_) (Json.spells_write _)
    decide +kernel
  refine ⟨command.toJson_eq, spells, ?_⟩
  rw [ofBytes?_of_spells spells]
  rfl

end RegisterGateway.Ingest.Command
