import Mathlib
import RegisterGateway.Json.Value

/-!
# Members of a name

An object may hold several members of one name. What is read from it goes by the members of each
name, in whatever order those of different names stand.
-/

namespace RegisterGateway.Json

variable {members : List (Option String × Value)} {name : String}

/-- The members of a name. -/
def named (name : String) (members : List (Option String × Value)) :
    List (Option String × Value) :=
  members.filter (fun member => member.1 = some name)

theorem mem_named_iff {member : Option String × Value} :
    member ∈ named name members ↔ member ∈ members ∧ member.1 = some name := by
  simp [named]

theorem named_append (first second : List (Option String × Value)) :
    named name (first ++ second) = named name first ++ named name second :=
  List.filter_append ..

theorem named_cons_self (value : Value) :
    named name ((some name, value) :: members) = (some name, value) :: named name members :=
  List.filter_cons_of_pos (by simp)

theorem named_cons_other {member : Option String × Value} (different : member.1 ≠ some name) :
    named name (member :: members) = named name members :=
  List.filter_cons_of_neg (by simpa using different)

/-- The members of some names first, and behind them the others. -/
theorem perm_flatMap_named {names : List String} (apart : names.Nodup)
    (members : List (Option String × Value)) :
    members.Perm ((names.flatMap fun name => named name members) ++
      members.filter (fun member => ∀ name ∈ names, member.1 ≠ some name)) := by
  induction names generalizing members with
  | nil => rw [List.flatMap_nil, List.nil_append, List.filter_eq_self.2 (by simp)]
  | cons first rest ih =>
      obtain ⟨outside, apart⟩ := List.nodup_cons.1 apart
      let others := members.filter fun member => !decide (member.1 = some first)
      have split : (named first members ++ others).Perm members := List.filter_append_perm ..
      have same : (rest.flatMap fun name => named name others) =
          rest.flatMap fun name => named name members := by
        refine List.flatMap_congr fun name listed => ?_
        rw [named, named, List.filter_filter]
        refine List.filter_congr fun member _ => ?_
        have different : name ≠ first := fun same => outside (same ▸ listed)
        grind
      have left : (others.filter fun member => ∀ name ∈ rest, member.1 ≠ some name) =
          members.filter fun member => ∀ name ∈ first :: rest, member.1 ≠ some name := by
        rw [List.filter_filter]
        refine List.filter_congr fun member _ => ?_
        grind
      rw [List.flatMap_cons, List.append_assoc, ← left, ← same]
      exact split.symm.trans (.append_left _ (ih apart others))

/-- A value stands under a name, once. -/
def IsOnly (members : List (Option String × Value)) (name : String) (value : Value) : Prop :=
  named name members = [(some name, value)]

theorem IsOnly.mem_iff {value : Value} (only : IsOnly members name value) (other : Value) :
    (some name, other) ∈ members ↔ other = value := by
  have listed : (some name, other) ∈ named name members ↔ (some name, other) ∈ members := by
    simp [mem_named_iff]
  rw [← listed, only]
  simp

end RegisterGateway.Json
