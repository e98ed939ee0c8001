import RegisterGateway.Ordered.KeySet

/-!
# Ordered tables

A table maps keys to values and lists its entries in key order, each key once. Insertion
keeps the order and overwrites the entry of an equal key, so a repeated key keeps its last
value. Two tables with the same keys and look-ups are therefore the same table.
-/

namespace RegisterGateway

namespace Table

variable {κ α β : Type}

/-! ## Lists of entries -/

/-- The value of the first entry under a key. -/
def lookUp [DecidableEq κ] (key : κ) (entries : List (κ × α)) : Option α :=
  (entries.find? (fun entry => entry.1 = key)).map Prod.snd

@[simp] theorem lookUp_nil [DecidableEq κ] (key : κ) :
    lookUp key ([] : List (κ × α)) = none := rfl

theorem lookUp_cons [DecidableEq κ] (key : κ) (entry : κ × α) (rest : List (κ × α)) :
    lookUp key (entry :: rest) = if entry.1 = key then some entry.2 else lookUp key rest := by
  by_cases same : entry.1 = key <;> simp [lookUp, same]

theorem mem_of_lookUp [DecidableEq κ] {key : κ} {value : α} {entries : List (κ × α)}
    (found : lookUp key entries = some value) : (key, value) ∈ entries := by
  obtain ⟨entry, isFirst, rfl⟩ := Option.map_eq_some_iff.1 found
  have equal : entry.1 = key := by simpa using List.find?_some isFirst
  subst equal
  exact List.mem_of_find?_eq_some isFirst

/-- Ordered insertion into a list of entries; an equal key is overwritten. -/
def insertEntry [DecidableEq κ] [LT κ] [DecidableLT κ] (key : κ) (value : α) :
    List (κ × α) → List (κ × α)
  | [] => [(key, value)]
  | (other, previous) :: rest =>
      if other = key then (key, value) :: rest
      else if key < other then (key, value) :: (other, previous) :: rest
      else (other, previous) :: insertEntry key value rest

/-- Insertion treats the keys as insertion into a set does. -/
theorem keys_insertEntry [DecidableEq κ] [LT κ] [DecidableLT κ] (key : κ) (value : α)
    (entries : List (κ × α)) :
    (insertEntry key value entries).map Prod.fst =
      KeySet.insertElement key (entries.map Prod.fst) := by
  induction entries with
  | nil => rfl
  | cons entry rest ih =>
    obtain ⟨other, previous⟩ := entry
    simp only [insertEntry, KeySet.insertElement, List.map_cons]
    split
    · rename_i equal
      simp [equal]
    · split <;> simp [ih]

/-- The entries with a new value under a key that occurs; other keys add nothing. -/
def replaceEntry [DecidableEq κ] (key : κ) (value : α) (entries : List (κ × α)) :
    List (κ × α) :=
  entries.map fun entry => if entry.1 = key then (key, value) else entry

theorem keys_replaceEntry [DecidableEq κ] (key : κ) (value : α) (entries : List (κ × α)) :
    (replaceEntry key value entries).map Prod.fst = entries.map Prod.fst := by
  simp only [replaceEntry, List.map_map]
  apply List.map_congr_left
  intro entry _
  by_cases equal : entry.1 = key <;> simp [equal]

theorem lookUp_insertEntry [DecidableEq κ] [LT κ] [DecidableLT κ] (key other : κ) (value : α)
    (entries : List (κ × α)) :
    lookUp other (insertEntry key value entries) =
      if key = other then some value else lookUp other entries := by
  induction entries with
  | nil => by_cases equal : key = other <;> simp [insertEntry, lookUp_cons, equal]
  | cons entry rest ih =>
    obtain ⟨head, previous⟩ := entry
    simp only [insertEntry]
    split
    · rename_i equal
      subst equal
      by_cases same : head = other <;> simp [lookUp_cons, same]
    · split
      · by_cases same : key = other <;> simp [lookUp_cons, same]
      · rename_i different _
        by_cases same : head = other
        · subst same
          simp [lookUp_cons, Ne.symm different]
        · simp [lookUp_cons, same, ih]

theorem lookUp_replaceEntry [DecidableEq κ] (key other : κ) (value : α)
    (entries : List (κ × α)) :
    lookUp other (replaceEntry key value entries) =
      if key = other then (lookUp other entries).map (fun _ => value)
      else lookUp other entries := by
  induction entries with
  | nil => simp [replaceEntry]
  | cons entry rest ih =>
    obtain ⟨head, previous⟩ := entry
    simp only [replaceEntry, List.map_cons] at ih ⊢
    rw [lookUp_cons, lookUp_cons, ih]
    by_cases equal : head = key
    · subst equal
      by_cases same : head = other <;> simp [same]
    · by_cases same : head = other
      · subst same
        simp [equal, Ne.symm equal]
      · simp [equal, same]

/-! ## Lists of entries in key order -/

section Increasing

variable [DecidableEq κ] [LT κ] [LE κ] [Std.LawfulOrderLT κ]

/-- A key below all keys of a list does not occur in it. -/
theorem lookUp_eq_none_of_below {key : κ} {entries : List (κ × α)}
    (below : ∀ other ∈ entries.map Prod.fst, key < other) : lookUp key entries = none := by
  cases found : lookUp key entries with
  | none => rfl
  | some value =>
    have member := List.mem_map_of_mem (f := Prod.fst) (mem_of_lookUp found)
    exact absurd (below key member) Std.lt_irrefl

theorem lookUp_of_mem {key : κ} {value : α} {entries : List (κ × α)}
    (increasing : (entries.map Prod.fst).Pairwise (· < ·))
    (member : (key, value) ∈ entries) : lookUp key entries = some value := by
  induction entries with
  | nil => cases member
  | cons entry rest ih =>
    obtain ⟨below, increasing⟩ := List.pairwise_cons.1 increasing
    rw [lookUp_cons]
    rcases List.mem_cons.1 member with rfl | member
    · rw [if_pos rfl]
    · have less := below key (List.mem_map_of_mem (f := Prod.fst) member)
      rw [if_neg (Std.ne_of_lt less)]
      exact ih increasing member

/-- Lists of entries in key order are determined by their look-ups. -/
theorem eq_of_lookUp [Std.IsPreorder κ] {first second : List (κ × α)}
    (firstIncreasing : (first.map Prod.fst).Pairwise (· < ·))
    (secondIncreasing : (second.map Prod.fst).Pairwise (· < ·))
    (alike : ∀ key, lookUp key first = lookUp key second) : first = second := by
  induction first generalizing second with
  | nil =>
    cases second with
    | nil => rfl
    | cons entry rest =>
      have found := alike entry.1
      simp [lookUp_cons] at found
  | cons head rest ih =>
    cases second with
    | nil =>
      have found := alike head.1
      simp [lookUp_cons] at found
    | cons other later =>
      obtain ⟨belowRest, restIncreasing⟩ := List.pairwise_cons.1 firstIncreasing
      obtain ⟨belowLater, laterIncreasing⟩ := List.pairwise_cons.1 secondIncreasing
      have headFound := alike head.1
      have otherFound := alike other.1
      rw [lookUp_cons, lookUp_cons, if_pos rfl] at headFound otherFound
      have sameKey : other.1 = head.1 := by
        refine Decidable.byContradiction fun different => ?_
        rw [if_neg different] at headFound
        rw [if_neg (Ne.symm different)] at otherFound
        have up := belowLater head.1
          (List.mem_map_of_mem (f := Prod.fst) (mem_of_lookUp headFound.symm))
        have down := belowRest other.1
          (List.mem_map_of_mem (f := Prod.fst) (mem_of_lookUp otherFound))
        exact Std.lt_irrefl (Std.lt_trans up down)
      rw [if_pos sameKey] at headFound
      have sameHead : head = other := Prod.ext sameKey.symm (Option.some.inj headFound)
      subst sameHead
      congr 1
      apply ih restIncreasing laterIncreasing
      intro key
      have found := alike key
      rw [lookUp_cons, lookUp_cons] at found
      by_cases same : head.1 = key
      · subst same
        rw [lookUp_eq_none_of_below belowRest, lookUp_eq_none_of_below belowLater]
      · rwa [if_neg same, if_neg same] at found

end Increasing

/-- The entries with every value transformed; the first failure in their order counts. -/
def transformEntries {ε : Type} (transform : κ → α → Except ε β) :
    List (κ × α) → Except ε (List (κ × β))
  | [] => .ok []
  | (key, value) :: rest => do
      let changed ← transform key value
      let later ← transformEntries transform rest
      pure ((key, changed) :: later)

/-- Transforming values leaves the keys as they are. -/
theorem keys_transformEntries {ε : Type} {transform : κ → α → Except ε β}
    {entries : List (κ × α)} {changed : List (κ × β)}
    (transformed : transformEntries transform entries = .ok changed) :
    changed.map Prod.fst = entries.map Prod.fst := by
  induction entries generalizing changed with
  | nil =>
    cases transformed
    rfl
  | cons entry rest ih =>
    obtain ⟨key, value⟩ := entry
    rw [transformEntries] at transformed
    cases first : transform key value with
    | error reason => simp [first, bind, Except.bind] at transformed
    | ok head =>
      cases later : transformEntries transform rest with
      | error reason => simp [first, later, bind, Except.bind] at transformed
      | ok tail =>
        simp only [first, later, bind, Except.bind, pure, Except.pure, Except.ok.injEq]
          at transformed
        subst transformed
        simp [ih later]

/-- Where every value can be transformed, all of them are. -/
theorem exists_transformEntries {ε : Type} {transform : κ → α → Except ε β}
    {entries : List (κ × α)}
    (succeeds : ∀ entry ∈ entries, ∃ changed, transform entry.1 entry.2 = .ok changed) :
    ∃ changed, transformEntries transform entries = .ok changed := by
  induction entries with
  | nil => exact ⟨[], rfl⟩
  | cons entry rest ih =>
    obtain ⟨key, value⟩ := entry
    obtain ⟨here, others⟩ := List.forall_mem_cons.1 succeeds
    obtain ⟨changed, first⟩ := here
    obtain ⟨tail, later⟩ := ih others
    refine ⟨(key, changed) :: tail, ?_⟩
    simp only [transformEntries, first, later]
    rfl

/-- Where entries cannot be transformed, one of them has failed in the same way. -/
theorem exists_error_of_transformEntries {ε : Type} {transform : κ → α → Except ε β}
    {entries : List (κ × α)} {reason : ε}
    (failed : transformEntries transform entries = .error reason) :
    ∃ entry ∈ entries, transform entry.1 entry.2 = .error reason := by
  induction entries with
  | nil => cases failed
  | cons entry rest ih =>
    rw [transformEntries] at failed
    cases first : transform entry.1 entry.2 with
    | error firstReason =>
      simp only [first, bind, Except.bind, Except.error.injEq] at failed
      exact ⟨entry, List.mem_cons_self, by rw [first, failed]⟩
    | ok made =>
      cases later : transformEntries transform rest with
      | ok tail => simp [first, later, bind, Except.bind, pure, Except.pure] at failed
      | error laterReason =>
        simp only [first, later, bind, Except.bind, Except.error.injEq] at failed
        subst failed
        obtain ⟨other, member, same⟩ := ih later
        exact ⟨other, List.mem_cons_of_mem _ member, same⟩

/-- What a transformed list finds has been transformed from what the list itself finds. -/
theorem lookUp_of_transformEntries [DecidableEq κ] {ε : Type} {transform : κ → α → Except ε β}
    {entries : List (κ × α)} {changed : List (κ × β)}
    (transformed : transformEntries transform entries = .ok changed) {key : κ} {value : β}
    (found : lookUp key changed = some value) :
    ∃ original, lookUp key entries = some original ∧ transform key original = .ok value := by
  induction entries generalizing changed with
  | nil =>
    cases transformed
    contradiction
  | cons entry rest ih =>
    obtain ⟨head, given⟩ := entry
    rw [transformEntries] at transformed
    cases first : transform head given with
    | error reason => simp [first, bind, Except.bind] at transformed
    | ok made =>
      cases later : transformEntries transform rest with
      | error reason => simp [first, later, bind, Except.bind] at transformed
      | ok tail =>
        simp only [first, later, bind, Except.bind, pure, Except.pure, Except.ok.injEq]
          at transformed
        subst transformed
        rw [lookUp_cons] at found ⊢
        by_cases same : head = key
        · subst same
          rw [if_pos rfl] at found ⊢
          cases found
          exact ⟨given, rfl, first⟩
        · rw [if_neg same] at found ⊢
          exact ih later found

end Table

/-- A finite map that lists its entries by key. -/
structure Table (κ α : Type) [LT κ] where
  entries : List (κ × α)
  increasing : (entries.map Prod.fst).Pairwise (· < ·)
  deriving DecidableEq

namespace Table

variable {κ α β : Type} [LT κ]

/-- The table without entries. -/
def empty : Table κ α := ⟨[], (KeySet.empty : KeySet κ).increasing⟩

instance : Inhabited (Table κ α) := ⟨empty⟩

/-- The value stored under a key. -/
def find? [DecidableEq κ] (table : Table κ α) (key : κ) : Option α :=
  lookUp key table.entries

def contains [DecidableEq κ] (table : Table κ α) (key : κ) : Bool :=
  (table.find? key).isSome

section Insertion

variable [DecidableEq κ] [DecidableLT κ] [LE κ] [Std.IsLinearOrder κ] [Std.LawfulOrderLT κ]

/-- The table with one entry added or overwritten. -/
def insert (table : Table κ α) (key : κ) (value : α) : Table κ α where
  entries := insertEntry key value table.entries
  increasing := by
    rw [keys_insertEntry]
    exact KeySet.increasing_insertElement key _ table.increasing

/-- The table of a list of entries; of equal keys the last one counts. -/
def ofList (entries : List (κ × α)) : Table κ α :=
  entries.foldl (fun table entry => table.insert entry.1 entry.2) empty

end Insertion

def keys (table : Table κ α) : List κ :=
  table.entries.map Prod.fst

/-- The values in the order of their keys. -/
def values (table : Table κ α) : List α :=
  table.entries.map Prod.snd

/-- The number of entries. -/
def size (table : Table κ α) : Nat :=
  table.entries.length

/-- Whether there is no entry. -/
def isEmpty (table : Table κ α) : Bool :=
  table.entries.isEmpty

/-- The same keys with every value transformed. -/
def map (transform : κ → α → β) (table : Table κ α) : Table κ β where
  entries := table.entries.map fun entry => (entry.1, transform entry.1 entry.2)
  increasing := by
    rw [List.map_map]
    exact table.increasing

/-- The same keys with every value transformed; the first failure in key order counts. -/
def mapM {ε : Type} (transform : κ → α → Except ε β) (table : Table κ α) :
    Except ε (Table κ β) :=
  match transformed : transformEntries transform table.entries with
  | .ok entries => .ok ⟨entries, by
      rw [keys_transformEntries transformed]
      exact table.increasing⟩
  | .error reason => .error reason

/-- The table with a new value under a key that it holds; other keys add nothing. -/
def replace [DecidableEq κ] (table : Table κ α) (key : κ) (value : α) : Table κ α where
  entries := replaceEntry key value table.entries
  increasing := by
    rw [keys_replaceEntry]
    exact table.increasing

@[simp] theorem keys_replace [DecidableEq κ] (table : Table κ α) (key : κ) (value : α) :
    (table.replace key value).keys = table.keys :=
  keys_replaceEntry key value table.entries

/-- Insertion decides one key and leaves every other as it was. -/
@[simp] theorem find?_insert [DecidableEq κ] [DecidableLT κ] [LE κ] [Std.IsLinearOrder κ]
    [Std.LawfulOrderLT κ] (table : Table κ α) (key other : κ) (value : α) :
    (table.insert key value).find? other = if key = other then some value else table.find? other :=
  lookUp_insertEntry key other value table.entries

/-- Replacing decides a key that is present and leaves every other as it was. -/
theorem find?_replace [DecidableEq κ] (table : Table κ α) (key other : κ) (value : α) :
    (table.replace key value).find? other =
      if key = other then (table.find? other).map (fun _ => value) else table.find? other :=
  lookUp_replaceEntry key other value table.entries

/-- A transformed table is looked up like the table itself. -/
theorem find?_map [DecidableEq κ] (transform : κ → α → β) (table : Table κ α) (key : κ) :
    (table.map transform).find? key = (table.find? key).map (transform key) := by
  obtain ⟨entries, increasing⟩ := table
  simp only [find?, map]
  clear increasing
  induction entries with
  | nil => rfl
  | cons entry rest ih =>
    rw [List.map_cons, lookUp_cons, lookUp_cons, ih]
    by_cases same : entry.1 = key
    · subst same
      simp
    · simp [same]

/-- What a table with transformed values finds has been transformed. -/
theorem find?_of_mapM [DecidableEq κ] {ε : Type} {transform : κ → α → Except ε β}
    {table : Table κ α} {changed : Table κ β} (transformed : table.mapM transform = .ok changed)
    {key : κ} {value : β} (found : changed.find? key = some value) :
    ∃ original, table.find? key = some original ∧ transform key original = .ok value := by
  unfold mapM at transformed
  split at transformed
  · rename_i entries succeeded
    cases transformed
    exact lookUp_of_transformEntries succeeded found
  · contradiction

/-- Transforming values leaves the keys of a table as they are. -/
theorem keys_of_mapM {ε : Type} {transform : κ → α → Except ε β} {table : Table κ α}
    {changed : Table κ β} (transformed : table.mapM transform = .ok changed) :
    changed.keys = table.keys := by
  unfold mapM at transformed
  split at transformed
  · rename_i entries succeeded
    cases transformed
    exact keys_transformEntries succeeded
  · contradiction

section Extensionality

variable [DecidableEq κ] [LE κ] [Std.LawfulOrderLT κ]

/-- The entries of a table are what its look-ups find. -/
theorem mem_entries_iff {table : Table κ α} {key : κ} {value : α} :
    (key, value) ∈ table.entries ↔ table.find? key = some value :=
  ⟨lookUp_of_mem table.increasing, mem_of_lookUp⟩

theorem mem_keys_iff {table : Table κ α} {key : κ} :
    key ∈ table.keys ↔ ∃ value, table.find? key = some value := by
  simp only [keys, List.mem_map, Prod.exists, exists_and_right, exists_eq_right, mem_entries_iff]

theorem contains_iff_mem_keys {table : Table κ α} {key : κ} :
    table.contains key = true ↔ key ∈ table.keys := by
  rw [contains, Option.isSome_iff_exists, mem_keys_iff]

theorem isEmpty_of_contains {table : Table κ α} {key : κ} (held : table.contains key = true) :
    table.isEmpty = false := by
  have occurs := contains_iff_mem_keys.1 held
  cases entries : table.entries with
  | nil => simp [keys, entries] at occurs
  | cons => simp [isEmpty, entries]

/-- Where every value can be transformed, all of them are. -/
theorem exists_mapM {ε : Type} {transform : κ → α → Except ε β} {table : Table κ α}
    (succeeds : ∀ key value, table.find? key = some value →
      ∃ changed, transform key value = .ok changed) :
    ∃ changed, table.mapM transform = .ok changed := by
  obtain ⟨entries, succeeded⟩ := exists_transformEntries fun entry member =>
    succeeds entry.1 entry.2 (mem_entries_iff.1 member)
  unfold mapM
  split
  · exact ⟨_, rfl⟩
  · rename_i failed
    rw [succeeded] at failed
    contradiction

/-- A value of a table is there when it has been transformed. -/
theorem find?_mapM {ε : Type} {transform : κ → α → Except ε β} {table : Table κ α}
    {changed : Table κ β} (transformed : table.mapM transform = .ok changed) {key : κ} {value : α}
    (present : table.find? key = some value) :
    ∃ made, changed.find? key = some made ∧ transform key value = .ok made := by
  have kept : key ∈ changed.keys := by
    rw [keys_of_mapM transformed]
    exact mem_keys_iff.2 ⟨value, present⟩
  obtain ⟨made, found⟩ := mem_keys_iff.1 kept
  obtain ⟨original, presentToo, transformedToo⟩ := find?_of_mapM transformed found
  rw [present] at presentToo
  cases presentToo
  exact ⟨made, found, transformedToo⟩

/-- Where values cannot be transformed, one of them has failed in the same way. -/
theorem exists_error_of_mapM {ε : Type} {transform : κ → α → Except ε β} {table : Table κ α}
    {reason : ε} (failed : table.mapM transform = .error reason) :
    ∃ key value, table.find? key = some value ∧ transform key value = .error reason := by
  unfold mapM at failed
  split at failed
  · contradiction
  · rename_i first
    cases failed
    obtain ⟨entry, member, same⟩ := exists_error_of_transformEntries first
    exact ⟨entry.1, entry.2, mem_entries_iff.1 member, same⟩

/-- Tables that are looked up alike are the same table. -/
theorem ext_find? [Std.IsPreorder κ] {first second : Table κ α}
    (alike : ∀ key, first.find? key = second.find? key) : first = second := by
  obtain ⟨firstEntries, firstIncreasing⟩ := first
  obtain ⟨secondEntries, secondIncreasing⟩ := second
  have equal := eq_of_lookUp firstIncreasing secondIncreasing alike
  subst equal
  rfl

/-- Replacing a value by itself changes nothing. -/
theorem replace_of_find? [Std.IsPreorder κ] {table : Table κ α} {key : κ} {value : α}
    (found : table.find? key = some value) : table.replace key value = table := by
  apply ext_find?
  intro other
  rw [find?_replace]
  split
  · rename_i equal
    subst equal
    rw [found, Option.map_some]
  · rfl

end Extensionality

end Table

end RegisterGateway
