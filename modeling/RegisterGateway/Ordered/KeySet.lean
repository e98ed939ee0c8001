/-!
# Ordered sets of keys

A set is kept as its strictly increasing list of elements, so equal sets are equal lists:
repetition and order in the list that a set was made of leave no trace.
-/

namespace RegisterGateway

/-- A finite set, listed in increasing order without repetition. -/
structure KeySet (κ : Type) [LT κ] where
  elements : List κ
  increasing : elements.Pairwise (· < ·)
  deriving DecidableEq

namespace KeySet

variable {κ : Type} [LT κ]

/-- The set without elements. -/
def empty : KeySet κ := ⟨[], .nil⟩

/-- Ordered insertion into a list; an element already there stays single. -/
def insertElement [DecidableEq κ] [DecidableLT κ] (key : κ) : List κ → List κ
  | [] => [key]
  | other :: rest =>
      if other = key then other :: rest
      else if key < other then key :: other :: rest
      else other :: insertElement key rest

theorem mem_insertElement [DecidableEq κ] [DecidableLT κ] (key other : κ) (elements : List κ) :
    other ∈ insertElement key elements ↔ other = key ∨ other ∈ elements := by
  induction elements with
  | nil => simp [insertElement]
  | cons head rest ih =>
    simp only [insertElement]
    split
    · rename_i equal
      subst equal
      simp
    · split
      · simp
      · simp only [List.mem_cons, ih]
        grind

theorem increasing_insertElement [DecidableEq κ] [DecidableLT κ] [LE κ] [Std.IsLinearOrder κ]
    [Std.LawfulOrderLT κ] (key : κ) (elements : List κ) (increasing : elements.Pairwise (· < ·)) :
    (insertElement key elements).Pairwise (· < ·) := by
  induction elements with
  | nil => simp [insertElement]
  | cons head rest ih =>
    simp only [insertElement]
    obtain ⟨below, increasing⟩ := List.pairwise_cons.1 increasing
    split
    · exact List.pairwise_cons.2 ⟨below, increasing⟩
    · split
      · rename_i less
        refine List.pairwise_cons.2
          ⟨fun other member => ?_, List.pairwise_cons.2 ⟨below, increasing⟩⟩
        rcases List.mem_cons.1 member with rfl | member
        · exact less
        · exact Std.lt_trans less (below other member)
      · rename_i different notLess
        refine List.pairwise_cons.2 ⟨fun other member => ?_, ih increasing⟩
        rcases (mem_insertElement key other rest).1 member with rfl | member
        · exact Std.lt_of_le_of_ne (Std.not_lt.1 notLess) different
        · exact below other member

variable [DecidableEq κ] [DecidableLT κ] [LE κ] [Std.IsLinearOrder κ] [Std.LawfulOrderLT κ]

/-- The set with one more element. -/
def insert (set : KeySet κ) (key : κ) : KeySet κ :=
  ⟨insertElement key set.elements, increasing_insertElement key set.elements set.increasing⟩

def ofList (elements : List κ) : KeySet κ :=
  elements.foldl insert empty

theorem mem_foldl_insert (key : κ) (elements : List κ) (set : KeySet κ) :
    key ∈ (elements.foldl insert set).elements ↔ key ∈ elements ∨ key ∈ set.elements := by
  induction elements generalizing set with
  | nil => simp
  | cons first rest ih =>
    rw [List.foldl_cons, ih, insert, mem_insertElement, List.mem_cons]
    grind

/-- The set of a list has the elements of the list. -/
theorem mem_ofList (key : κ) (elements : List κ) :
    key ∈ (ofList elements).elements ↔ key ∈ elements := by
  rw [ofList, mem_foldl_insert]
  simp [empty]

end KeySet

namespace KeySet

variable {κ : Type} [LT κ]

def contains [DecidableEq κ] (set : KeySet κ) (key : κ) : Bool :=
  set.elements.contains key

/-- Whether there is no element. -/
def isEmpty (set : KeySet κ) : Bool :=
  set.elements.isEmpty

instance : Inhabited (KeySet κ) := ⟨empty⟩

end KeySet

end RegisterGateway
