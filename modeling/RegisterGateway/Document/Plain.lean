import RegisterGateway.Document.Scalar
import RegisterGateway.Text.Numeral

/-!
# Meanings of plain scalars

What a plain scalar denotes by its looks: nothing, a truth value, an integer, another
number, or its own text. Integers are decimal without leading zeros, or hexadecimal, octal
or binary behind `0x`, `0o` or `0b`; one sign may stand in front.
-/

namespace RegisterGateway.Document

/-- Whether a text is a word for nothing. -/
def isNullWord (text : String) : Bool :=
  ["null", "Null", "NULL", "~"].contains text

def boolWord? (text : String) : Option Bool :=
  [("true", true), ("True", true), ("TRUE", true), ("false", false), ("False", false),
    ("FALSE", false)].lookup text

/-- The value of a digit in a base up to sixteen. -/
def baseDigit? (base : Nat) (character : Char) : Option Nat :=
  (Text.hexValue? character).filter (· < base)

/-- Reads one or more digits of a base. -/
def digitsOf? (base : Nat) (text : List Char) : Option Nat :=
  if text.isEmpty then none
  else text.foldlM (fun value character => (baseDigit? base character).map (base * value + ·)) 0

/-- What follows the sign of a number, if it has one. -/
def withoutSign (text : List Char) : List Char :=
  match text with
  | '+' :: rest => rest
  | '-' :: rest => rest
  | _ => text

/-- Whether a text without sign is a zero with digits after it. -/
def hasLeadingZero (text : List Char) : Bool :=
  match text with
  | '0' :: rest => !rest.isEmpty && rest.all Text.isDigit
  | _ => false

/-- Reads an integer without sign. -/
def unsigned? (text : List Char) : Option Nat :=
  match text with
  | '0' :: 'x' :: digits => digitsOf? 16 digits
  | '0' :: 'o' :: digits => digitsOf? 8 digits
  | '0' :: 'b' :: digits => digitsOf? 2 digits
  | _ => if hasLeadingZero text then none else digitsOf? 10 text

/-- Reads an integer that is not negative, below a limit. -/
def natural? (limit : Nat) (text : List Char) : Option Nat :=
  let digits := match text with
    | '+' :: rest => rest
    | _ => text
  (unsigned? digits).filter (· < limit)

def integer? (text : List Char) : Option Int :=
  match text with
  | '-' :: digits => (unsigned? digits).map (fun value => -(value : Int))
  | '+' :: digits => (unsigned? digits).map (fun value => (value : Int))
  | _ => (unsigned? text).map (fun value => (value : Int))

/-- Whether the number `digits * 10^exponent` is below the bound from which on a double is
infinite. -/
def isFinite (digits : Nat) (exponent : Int) : Bool :=
  let bound := Nat.pow 2 1024 - Nat.pow 2 970
  if digits = 0 then true
  else if 0 ≤ exponent then exponent ≤ 400 && digits * Nat.pow 10 exponent.toNat < bound
  else
    let length := (Text.digits digits).length
    length + exponent < 309 || digits < bound * Nat.pow 10 (-exponent).toNat

/-- Whether a text is a decimal number, with or without a fraction and an exponent, or a word
for a number that is not finite or none at all. -/
def isDecimal (text : List Char) : Bool :=
  let unsignedText := withoutSign text
  let word := String.ofList unsignedText
  if [".inf", ".Inf", ".INF"].contains word then true
  else if [".nan", ".NaN", ".NAN"].contains (String.ofList text) then true
  else
    let whole := unsignedText.takeWhile Text.isDigit
    let rest := unsignedText.drop whole.length
    let (fraction, rest) := match rest with
      | '.' :: rest => (rest.takeWhile Text.isDigit, rest.dropWhile Text.isDigit)
      | _ => ([], rest)
    let digits := Text.ofDigits (whole ++ fraction)
    if whole.isEmpty && fraction.isEmpty then false
    else
      let finite (exponent : Int) : Bool := isFinite digits (exponent - fraction.length)
      match rest with
      | [] => finite 0
      | letter :: rest =>
        if letter = 'e' ∨ letter = 'E' then
          match rest with
          | '-' :: power => (digitsOf? 10 power).any (fun power => finite (-(power : Int)))
          | '+' :: power => (digitsOf? 10 power).any (fun power => finite power)
          | power => (digitsOf? 10 power).any (fun power => finite power)
        else false

end RegisterGateway.Document
