import RegisterGateway.Text.Blank

/-!
# What is left of a text without its blanks

Taking the blanks off both ends of a text leaves what stands between them. A text that neither
begins nor ends with a blank is what is left of exactly those texts that put blanks around it.
-/

namespace RegisterGateway.Text

/-- What is trimmed off the end of a text is its last blanks. -/
theorem trimChars_append_blanks (characters : List Char) :
    trimChars characters ++ ((characters.dropWhile isBlank).reverse.takeWhile isBlank).reverse =
      characters.dropWhile isBlank := by
  rw [trimChars, ← List.reverse_append, List.takeWhile_append_dropWhile, List.reverse_reverse]

/-- A text is what is left of it, with blanks around it. -/
theorem exists_blanks_around (characters : List Char) :
    ∃ front back : List Char, (∀ character ∈ front, isBlank character) ∧
      (∀ character ∈ back, isBlank character) ∧
      characters = front ++ trimChars characters ++ back := by
  refine ⟨characters.takeWhile isBlank,
    ((characters.dropWhile isBlank).reverse.takeWhile isBlank).reverse,
    List.all_eq_true.1 List.all_takeWhile, ?_, ?_⟩
  · intro character member
    exact List.all_eq_true.1 List.all_takeWhile character (List.mem_reverse.1 member)
  · rw [List.append_assoc, trimChars_append_blanks, List.takeWhile_append_dropWhile]

/-- Blanks in front of a text that does not begin with one are dropped. -/
theorem dropWhile_blanks_append {front inner : List Char}
    (blanks : ∀ character ∈ front, isBlank character)
    (begins : ∀ character ∈ inner.head?, isBlank character = false) :
    (front ++ inner).dropWhile isBlank = inner := by
  induction front with
  | nil =>
      cases inner with
      | nil => rfl
      | cons first rest => exact List.dropWhile_cons_of_neg (by simp [begins first rfl])
  | cons first rest ih =>
      obtain ⟨blank, others⟩ := List.forall_mem_cons.1 blanks
      rw [List.cons_append, List.dropWhile_cons_of_pos blank, ih others]

theorem trimChars_of_blanks {front inner back : List Char}
    (frontBlank : ∀ character ∈ front, isBlank character)
    (backBlank : ∀ character ∈ back, isBlank character)
    (nonempty : inner ≠ [])
    (begins : ∀ character ∈ inner.head?, isBlank character = false)
    (ends : ∀ character ∈ inner.getLast?, isBlank character = false) :
    trimChars (front ++ inner ++ back) = inner := by
  have beginsToo : ∀ character ∈ (inner ++ back).head?, isBlank character = false := by
    cases inner with
    | nil => contradiction
    | cons first rest => exact begins
  rw [trimChars, List.append_assoc, dropWhile_blanks_append frontBlank beginsToo,
    List.reverse_append, dropWhile_blanks_append, List.reverse_reverse]
  · intro character member
    exact backBlank character (List.mem_reverse.1 member)
  · rwa [List.head?_reverse]

/-! ## Trimmed texts -/

theorem isBlank_head?_dropWhile {characters : List Char} {first : Char}
    (begins : (characters.dropWhile isBlank).head? = some first) : isBlank first = false := by
  have unblank := List.head?_dropWhile_not isBlank characters
  rw [begins] at unblank
  exact unblank

/-- A trimmed text does not begin with a blank. -/
theorem isBlank_head?_trimChars {characters : List Char} {first : Char}
    (begins : (trimChars characters).head? = some first) : isBlank first = false := by
  have beginsToo : (characters.dropWhile isBlank).head? = some first := by
    rw [← trimChars_append_blanks, List.head?_append, begins, Option.some_or]
  exact isBlank_head?_dropWhile beginsToo

/-- A trimmed text does not end with a blank. -/
theorem isBlank_getLast?_trimChars {characters : List Char} {last : Char}
    (ends : (trimChars characters).getLast? = some last) : isBlank last = false := by
  rw [trimChars, List.getLast?_reverse] at ends
  exact isBlank_head?_dropWhile ends

/-- What is left of a text when the blanks around it are taken off. -/
structure Trims (characters inner : List Char) : Prop where
  around : ∃ front back, (∀ character ∈ front, isBlank character) ∧
    (∀ character ∈ back, isBlank character) ∧ characters = front ++ inner ++ back
  begins : ∀ character ∈ inner.head?, isBlank character = false
  ends : ∀ character ∈ inner.getLast?, isBlank character = false

theorem trimChars_eq_iff {characters inner : List Char} :
    trimChars characters = inner ↔ Trims characters inner := by
  constructor
  · rintro rfl
    exact ⟨exists_blanks_around characters, fun _ => isBlank_head?_trimChars,
      fun _ => isBlank_getLast?_trimChars⟩
  · rintro ⟨⟨front, back, frontBlank, backBlank, rfl⟩, begins, ends⟩
    by_cases nonempty : inner = []
    · subst nonempty
      have blanks : ∀ character ∈ front ++ [] ++ back, isBlank character := by
        simpa [or_imp, forall_and] using ⟨frontBlank, backBlank⟩
      have nothing := @dropWhile_blanks_append _ [] blanks nofun
      rw [List.append_nil] at nothing
      rw [trimChars, nothing]
      rfl
    · exact trimChars_of_blanks frontBlank backBlank nonempty begins ends

/-- A text that has been trimmed is not trimmed any further. -/
theorem trimChars_trimChars (characters : List Char) :
    trimChars (trimChars characters) = trimChars characters := by
  obtain ⟨-, begins, ends⟩ := trimChars_eq_iff.1 (rfl : trimChars characters = _)
  exact trimChars_eq_iff.2 ⟨⟨[], [], nofun, nofun, by simp⟩, begins, ends⟩

theorem trim_trim (text : String) : trim (trim text) = trim text := by
  rw [trim, trim, String.toList_ofList, trimChars_trimChars]

/-- A text is blank if what is left of it is. -/
theorem isAllBlank_trim (text : String) : isAllBlank (trim text) = isAllBlank text := by
  obtain ⟨front, back, frontBlank, backBlank, parts⟩ := exists_blanks_around text.toList
  rw [isAllBlank, isAllBlank, trim, String.toList_ofList]
  refine Eq.trans ?_ (congrArg (List.all · isBlank) parts).symm
  rw [List.all_append, List.all_append, List.all_eq_true.2 frontBlank,
    List.all_eq_true.2 backBlank, Bool.true_and, Bool.and_true]

/-! ## Texts with blanks around them -/

/-- Trimming a text leaves another one that is not blank at its ends exactly if blanks have been
put around that. -/
theorem trim_eq_iff {text inner : String} (nonempty : inner.toList ≠ [])
    (begins : ∀ character ∈ inner.toList.head?, isBlank character = false)
    (ends : ∀ character ∈ inner.toList.getLast?, isBlank character = false) :
    trim text = inner ↔
      ∃ front back : String, isAllBlank front ∧ isAllBlank back ∧
        text = front ++ inner ++ back := by
  constructor
  · rintro rfl
    obtain ⟨front, back, frontBlank, backBlank, parts⟩ := exists_blanks_around text.toList
    refine ⟨String.ofList front, String.ofList back, ?_, ?_, ?_⟩
    · simpa [isAllBlank] using frontBlank
    · simpa [isAllBlank] using backBlank
    · apply String.toList_injective
      simpa [trim] using parts
  · rintro ⟨front, back, frontBlank, backBlank, rfl⟩
    rw [trim, String.toList_append, String.toList_append,
      trimChars_of_blanks (by simpa [isAllBlank] using frontBlank)
        (by simpa [isAllBlank] using backBlank) nonempty begins ends, String.ofList_toList]

end RegisterGateway.Text
