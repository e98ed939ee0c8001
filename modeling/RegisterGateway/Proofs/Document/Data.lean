import Mathlib
import RegisterGateway.Document.Datum
import RegisterGateway.Proofs.Results

/-!
# Data read from JSON

A datum that is read from a JSON value is written as this value again. So what is found in the datum
can be said of the value.
-/

namespace RegisterGateway.Document

theorem orMalformed_eq_ok_iff {α : Type} {found : Option α} {value : α} :
    orMalformed found = .ok value ↔ found = some value := by
  cases found <;> simp [orMalformed]

namespace Datum

theorem itemsToJson_eq_map (items : List Datum) : itemsToJson items = items.map toJson := by
  induction items with
  | nil => rfl
  | cons item rest ih => rw [itemsToJson, ih, List.map_cons]

theorem toJson_list (items : List Datum) : (list items).toJson = .array (items.map toJson) := by
  rw [toJson, itemsToJson_eq_map]

/-! ## Values that have been read -/

mutual

theorem toJson_of_ofJson? (value : Json.Value) {datum : Datum} (read : ofJson? value = some datum) :
    datum.toJson = value := by
  match value with
  | .null | .bool _ | .integer _ | .decimal =>
      cases read
      rfl
  | .text content =>
      obtain ⟨text, rfl, rfl⟩ := Option.map_eq_some_iff.1 read
      rfl
  | .array elements =>
      rw [ofJson?] at read
      obtain ⟨items, found, rfl⟩ := Option.map_eq_some_iff.1 read
      rw [toJson, itemsToJson_of_itemsOfJson? elements found]
  | .object members =>
      rw [ofJson?] at read
      obtain ⟨entries, found, rfl⟩ := Option.map_eq_some_iff.1 read
      rw [toJson, entriesToJson_of_entriesOfJson? members found]

theorem itemsToJson_of_itemsOfJson? (values : List Json.Value) {items : List Datum}
    (read : itemsOfJson? values = some items) : itemsToJson items = values := by
  match values with
  | [] =>
      cases read
      rfl
  | value :: rest =>
      simp only [itemsOfJson?, Option.bind_eq_bind, Option.bind_eq_some_iff] at read
      obtain ⟨item, first, later, others, same⟩ := read
      cases same
      rw [itemsToJson, toJson_of_ofJson? value first, itemsToJson_of_itemsOfJson? rest others]

theorem entriesToJson_of_entriesOfJson? (members : List (Option String × Json.Value))
    {entries : List (Datum × Datum)} (read : entriesOfJson? members = some entries) :
    entriesToJson entries = members := by
  match members with
  | [] =>
      cases read
      rfl
  | (name, value) :: rest =>
      simp only [entriesOfJson?, Option.bind_eq_bind, Option.bind_eq_some_iff] at read
      obtain ⟨text, named, item, first, later, others, same⟩ := read
      cases same
      rw [entriesToJson, toJson_of_ofJson? value first,
        entriesToJson_of_entriesOfJson? rest others, named]
      rfl

end

theorem exists_ofJson?_array_map {κ : Type} {item : κ → Json.Value}
    (each : ∀ key, ∃ datum, ofJson? (item key) = some datum) (keys : List κ) :
    ∃ datum, ofJson? (.array (keys.map item)) = some datum := by
  have items : ∃ items, itemsOfJson? (keys.map item) = some items := by
    induction keys with
    | nil => exact ⟨[], rfl⟩
    | cons key rest ih =>
        obtain ⟨first, ofKey⟩ := each key
        obtain ⟨others, ofRest⟩ := ih
        exact ⟨first :: others, by simp [itemsOfJson?, ofKey, ofRest]⟩
  obtain ⟨items, found⟩ := items
  exact ⟨.list items, by rw [ofJson?, found, Option.map_some]⟩

theorem ofJson_eq_ok_iff {value : Json.Value} {datum : Datum} :
    ofJson value = .ok datum ↔ ofJson? value = some datum :=
  orMalformed_eq_ok_iff

/-- What is read from a value by way of a datum can be said of the value, if whatever has a meaning
can be taken as a datum. -/
theorem ofJson_bind_eq_ok_iff {α : Type} {read : Datum → Except DecodeError α}
    {value : Json.Value} {result : α} {meant : Prop}
    (readable : meant → ∃ datum, ofJson? value = some datum)
    (reads : ∀ datum, datum.toJson = value → (read datum = .ok result ↔ meant)) :
    ofJson value >>= read = .ok result ↔ meant := by
  rw [bind_eq_ok_iff]
  constructor
  · rintro ⟨datum, taken, found⟩
    exact (reads datum (toJson_of_ofJson? value (ofJson_eq_ok_iff.1 taken))).1 found
  · intro holds
    obtain ⟨datum, taken⟩ := readable holds
    exact ⟨datum, ofJson_eq_ok_iff.2 taken,
      (reads datum (toJson_of_ofJson? value taken)).2 holds⟩

/-! ## Keys and lists of keys -/

theorem text?_eq_some_iff {datum : Datum} {content : String} :
    datum.text? = some content ↔ datum.toJson = .string content := by
  cases datum <;> simp [text?, toJson, Json.Value.string]

theorem eq_text_of_toJson {datum : Datum} {content : String}
    (written : datum.toJson = .string content) : datum = .text content := by
  cases datum <;> simp_all [toJson, Json.Value.string]

theorem isNull_eq_true_iff {datum : Datum} : datum.isNull = true ↔ datum = .null := by
  cases datum <;> simp [isNull]

/-- A map of one entry is read from an object of one member. -/
theorem exists_member_of_ofJson? {value : Json.Value} {key item : Datum}
    (read : ofJson? value = some (.map [(key, item)])) :
    ∃ name inner, value = .object [(some name, inner)] ∧ key = .text name ∧
      ofJson? inner = some item := by
  obtain rfl := toJson_of_ofJson? value read
  simp only [toJson, entriesToJson, ofJson?, entriesOfJson?, Option.bind_eq_bind,
    Option.map_eq_some_iff, Option.bind_eq_some_iff] at read
  obtain ⟨entries, ⟨name, named, first, isItem, -, ⟨⟩, same⟩, isMap⟩ := read
  cases same
  cases isMap
  exact ⟨name, item.toJson, by rw [toJson, entriesToJson, named, entriesToJson], rfl, isItem⟩

theorem byte?_eq_some_iff {datum : Datum} {byte : UInt8} :
    datum.byte? = some byte ↔ datum.toJson = .nat byte.toNat := by
  have small := byte.toNat_lt
  cases datum with
  | integer value =>
      simp only [byte?, toJson, Json.Value.nat, Json.Value.integer.injEq]
      constructor
      · intro found
        split at found
        · rename_i inside
          cases found
          rw [UInt8.toNat_ofNat_of_lt' (show value.toNat < 256 by omega),
            Int.toNat_of_nonneg inside.1]
        · contradiction
      · rintro rfl
        rw [if_pos (by omega), Int.toNat_natCast, UInt8.ofNat_toNat]
  | negativeZero =>
      simp only [byte?, toJson, Json.Value.nat, Json.Value.integer.injEq, Option.some.injEq]
      rw [eq_comm (a := (0 : Int)), Int.natCast_eq_zero, ← UInt8.toNat_inj, eq_comm]
      rfl
  | null | bool | decimal | text | list | map =>
      simp [byte?, toJson, Json.Value.nat, Json.Value.string]

/-- A list is read as keys if it is what these keys are written as. -/
theorem listOf?_eq_some_iff {κ : Type} {item? : Datum → Option κ} {item : κ → Json.Value}
    (reads : ∀ datum key, item? datum = some key ↔ datum.toJson = item key) {datum : Datum}
    {keys : List κ} :
    datum.listOf? item? = some keys ↔ datum.toJson = .array (keys.map item) := by
  cases datum with
  | list items =>
      rw [listOf?, toJson_list, Json.Value.array.injEq]
      induction items generalizing keys with
      | nil => cases keys <;> simp
      | cons first rest ih =>
          rw [List.mapM_cons, List.map_cons]
          cases keys with
          | nil => simp [Option.bind_eq_some_iff]
          | cons key later => simp [Option.bind_eq_some_iff, reads, ih]
  | null | bool | integer | negativeZero | decimal | text | map =>
      simp [listOf?, toJson, Json.Value.string]

end Datum

end RegisterGateway.Document
