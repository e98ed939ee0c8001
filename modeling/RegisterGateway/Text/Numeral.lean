/-!
# Decimal numerals

The plain decimal form of a number (`digits`), and the reading of numerals in which
leading zeros and one leading plus sign are allowed (`word?`).
-/

namespace RegisterGateway.Text

/-- Whether a character is one of the ASCII digits. -/
def isDigit (character : Char) : Bool :=
  '0' ≤ character && character ≤ '9'

/-- The digit character of a number below ten. -/
def digit (value : Nat) : Char :=
  Char.ofNat (48 + value)

def digitValue (character : Char) : Nat :=
  character.toNat - 48

/-- The plain decimal form: no sign and no leading zero. -/
def digits (value : Nat) : List Char :=
  if value < 10 then [digit value] else digits (value / 10) ++ [digit (value % 10)]

/-- The plain decimal form as a text. -/
def decimal (value : Nat) : String :=
  String.ofList (digits value)

def ofDigits (characters : List Char) : Nat :=
  characters.foldl (fun value character => 10 * value + digitValue character) 0

/-- Reads one or more digits and nothing else. -/
def numeral? (characters : List Char) : Option Nat :=
  if characters.isEmpty then none
  else if characters.all isDigit then some (ofDigits characters)
  else none

/-- Reads a numeral below a limit; one plus sign may stand in front. -/
def word? (limit : Nat) (characters : List Char) : Option Nat := do
  let unsigned := match characters with
    | '+' :: rest => rest
    | _ => characters
  let value ← numeral? unsigned
  if value < limit then some value else none

theorem isDigit_digit {value : Nat} (small : value < 10) : isDigit (digit value) := by
  match value with
  | 0 | 1 | 2 | 3 | 4 | 5 | 6 | 7 | 8 | 9 => decide

theorem digitValue_digit {value : Nat} (small : value < 10) : digitValue (digit value) = value := by
  match value with
  | 0 | 1 | 2 | 3 | 4 | 5 | 6 | 7 | 8 | 9 => decide

/-- Reading the plain decimal form gives the number back. -/
@[simp] theorem ofDigits_digits (value : Nat) : ofDigits (digits value) = value := by
  fun_induction digits value with
  | case1 value small => simp [ofDigits, digitValue_digit small]
  | case2 value large ih =>
    simp only [ofDigits, List.foldl_append, List.foldl_cons, List.foldl_nil] at ih ⊢
    rw [ih, digitValue_digit (Nat.mod_lt value (by decide))]
    omega

theorem all_isDigit_digits (value : Nat) : (digits value).all isDigit := by
  fun_induction digits value with
  | case1 value small => simp [isDigit_digit small]
  | case2 value large ih => simp [ih, isDigit_digit (Nat.mod_lt value (by decide))]

theorem digits_ne_nil (value : Nat) : digits value ≠ [] := by
  unfold digits
  split <;> simp

/-- The plain decimal form is read as the number it was made of. -/
@[simp] theorem numeral?_digits (value : Nat) : numeral? (digits value) = some value := by
  simp [numeral?, digits_ne_nil, all_isDigit_digits]

/-- Distinct numbers have distinct plain decimal forms. -/
theorem decimal_inj {first second : Nat} (equal : decimal first = decimal second) :
    first = second := by
  have same : digits first = digits second := String.ofList_injective equal
  simpa using congrArg ofDigits same

theorem digit_eq_digitChar {value : Nat} (small : value < 10) : digit value = value.digitChar := by
  match value with
  | 0 | 1 | 2 | 3 | 4 | 5 | 6 | 7 | 8 | 9 => rfl

theorem digits_eq_toDigits (value : Nat) : digits value = Nat.toDigits 10 value := by
  fun_induction digits value with
  | case1 value small => rw [Nat.toDigits_of_lt_base small, digit_eq_digitChar small]
  | case2 value large ih =>
    rw [Nat.toDigits_of_base_le (by decide) (Nat.not_lt.1 large), ih,
      digit_eq_digitChar (Nat.mod_lt value (by decide))]

/-- The plain decimal form is the usual one. -/
theorem decimal_eq_toString (value : Nat) : decimal value = toString value := by
  rw [decimal, digits_eq_toDigits]
  rfl

end RegisterGateway.Text
