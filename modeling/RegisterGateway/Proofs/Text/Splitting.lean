import Mathlib
import RegisterGateway.Text.Split

/-!
# Splitting at a character

Texts are split through positions in bytes. Where what separates them is a single character, this
comes to splitting lists of characters. A text that is split at the last occurrence of a character
is made of its two parts, and the second one does not hold that character.
-/

namespace RegisterGateway.Text

open String in
/-- Splitting in progress: the characters in front have been split off, those in the middle have
been passed since. -/
theorem splitOnAux_of_valid (separator : Char) (front middle rest : List Char)
    (parts : List String) :
    splitOnAux (ofList (front ++ middle ++ rest)) (ofList [separator]) ⟨utf8Len front⟩
        ⟨utf8Len front + utf8Len middle⟩ 0 parts =
      parts.reverse ++
        (List.splitOnPPrepend (· == separator) rest middle.reverse).map ofList := by
  have first : Pos.Raw.get (ofList [separator]) 0 = separator := get_of_valid [] [separator]
  have afterFirst : Pos.Raw.next (ofList [separator]) 0 = ⟨separator.utf8Size⟩ := by
    simpa using next_of_valid [] separator []
  have reachesEnd : utf8Len middle + utf8Len rest ≤ utf8Len middle ↔ rest = [] := by
    rw [← utf8Len_eq_zero]
    omega
  unfold splitOnAux
  simp only [List.append_assoc, atEnd_iff, rawEndPos_ofList, utf8Len_append, Pos.Raw.mk_le_mk,
    Nat.add_le_add_iff_left, reachesEnd]
  cases rest with
  | nil => simpa using extract_of_valid front middle []
  | cons character rest =>
      have current := get_of_valid (front ++ middle) (character :: rest)
      have next := next_of_valid (front ++ middle) character rest
      have passed := extract_of_valid front middle (character :: rest)
      simp only [List.append_assoc, utf8Len_append, List.headD_cons] at current next passed
      rw [if_neg (List.cons_ne_nil character rest), current, first, next, afterFirst]
      by_cases isSeparator : character = separator
      · subst isSeparator
        have before := splitOnAux_of_valid character (front ++ middle ++ [character]) [] rest
          (ofList middle :: parts)
        simp only [Pos.Raw.unoffsetBy, Nat.add_sub_cancel, passed]
        simpa [-ofList_append, Nat.add_assoc, List.splitOnPPrepend_cons_eq_if] using before
      · have ahead := splitOnAux_of_valid separator front (middle ++ [character]) rest parts
        simp only [Pos.Raw.unoffsetBy, Pos.Raw.byteIdx_zero, Nat.sub_zero, next]
        simpa [-ofList_append, Nat.add_assoc, List.splitOnPPrepend_cons_eq_if, isSeparator]
          using ahead
termination_by rest.length

/-- Splitting a text at a character splits its characters. -/
theorem splitOn_singleton (text : String) (separator : Char) :
    text.splitOn (String.singleton separator) =
      (text.toList.splitOnP (· == separator)).map String.ofList := by
  simpa [String.splitOn] using splitOnAux_of_valid separator [] [] text.toList []

/-! ## The last occurrence -/

section LastOccurrence

variable {separator : Char} {text front last : List Char}

theorem splitAtLast?_append (front : List Char) (absent : separator ∉ last) :
    splitAtLast? separator (front ++ separator :: last) = some (front, last) := by
  have others : ∀ character ∈ last.reverse, decide (character ≠ separator) = true := by
    intro character member
    refine decide_eq_true ?_
    rintro rfl
    exact absent (List.mem_reverse.1 member)
  have back : (front ++ separator :: last).reverse =
      last.reverse ++ separator :: front.reverse := by
    simp
  simp only [splitAtLast?, back, List.dropWhile_append_of_pos others,
    List.takeWhile_append_of_pos others]
  simp

theorem splitAtLast?_eq_none (absent : separator ∉ text) : splitAtLast? separator text = none := by
  have nothing : text.reverse.dropWhile (fun character => decide (character ≠ separator)) = [] := by
    rw [List.dropWhile_eq_nil_iff]
    intro character member
    refine decide_eq_true ?_
    rintro rfl
    exact absent (List.mem_reverse.1 member)
  simp only [splitAtLast?, nothing]

/-- A text with a character in it has a last occurrence of it. -/
theorem exists_last_of_mem (present : separator ∈ text) :
    ∃ front last, text = front ++ separator :: last ∧ separator ∉ last := by
  obtain ⟨last, front, parts, absent⟩ :=
    List.eq_append_cons_of_mem (List.mem_reverse.2 present)
  refine ⟨front.reverse, last.reverse, ?_, fun member => absent (List.mem_reverse.1 member)⟩
  have parts := congrArg List.reverse parts
  rw [List.reverse_reverse] at parts
  rw [parts]
  simp

end LastOccurrence

end RegisterGateway.Text
