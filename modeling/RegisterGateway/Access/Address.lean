import RegisterGateway.Text.Hexadecimal
import RegisterGateway.Text.Numeral

/-!
# Internet addresses

An IPv4 address is 32 bits, written as four decimal numbers between dots. An IPv6 address
is 128 bits, written as eight hexadecimal groups between colons; one run of zero groups may
be left out as `::`, and the last two groups may be written as an IPv4 address. Each reader
takes an address off the front of a text and returns what is left.
-/

namespace RegisterGateway.Access

/-- An internet address of either family. -/
inductive Address where
  | v4 (bits : BitVec 32)
  | v6 (bits : BitVec 128)
  deriving DecidableEq, Repr

namespace Address

/-- One of the four numbers of a dotted address: up to three digits without a leading zero. -/
def octet? (text : List Char) : Option (Nat × List Char) :=
  let written := text.takeWhile Text.isDigit
  let value := Text.ofDigits written
  if written.isEmpty || 3 < written.length || 255 < value then none
  else if written.head? = some '0' ∧ 1 < written.length then none
  else some (value, text.drop written.length)

/-- A dotted address, as the number that its 32 bits denote. -/
def dotted? (text : List Char) : Option (Nat × List Char) := do
  let (first, text) ← octet? text
  let text ← afterDot? text
  let (second, text) ← octet? text
  let text ← afterDot? text
  let (third, text) ← octet? text
  let text ← afterDot? text
  let (fourth, text) ← octet? text
  pure (((first * 256 + second) * 256 + third) * 256 + fourth, text)
where
  afterDot? : List Char → Option (List Char)
    | '.' :: rest => some rest
    | _ => none

/-- One group of a colon address: one to four hexadecimal digits. -/
def group? (text : List Char) : Option (Nat × List Char) :=
  let written := text.takeWhile (fun character => (Text.hexValue? character).isSome)
  if written.isEmpty || 4 < written.length then none
  else
    let value := written.foldl (fun value character =>
      16 * value + (Text.hexValue? character).getD 0) 0
    some (value, text.drop written.length)

/-- Groups read off the front of a text. -/
structure Groups where
  values : List Nat
  endsDotted : Bool
  rest : List Char

/-- What follows the colon that separates a group from the one before it; the first group
has none. -/
def afterColon? (isFirst : Bool) (text : List Char) : Option (List Char) :=
  match isFirst, text with
  | true, text => some text
  | false, ':' :: rest => some rest
  | false, _ => none

/-- Reads as many groups as there are, up to a limit; where two groups have room a dotted
address may stand for them, and it is the last thing read. -/
def groups (limit : Nat) (isFirst : Bool) (text : List Char) : Groups :=
  match limit with
  | 0 => ⟨[], false, text⟩
  | limit + 1 =>
    match if limit = 0 then none else (afterColon? isFirst text).bind dotted? with
    | some (value, rest) => ⟨[value / 65536, value % 65536], true, rest⟩
    | none =>
      match (afterColon? isFirst text).bind group? with
      | none => ⟨[], false, text⟩
      | some (value, rest) =>
        let later := groups limit false rest
        ⟨value :: later.values, later.endsDotted, later.rest⟩

/-- A colon address, as its eight groups: all of them, or those before and after `::`,
which stands for at least one group. -/
def colonGroups? (text : List Char) : Option (List Nat × List Char) :=
  let front := groups 8 true text
  if front.values.length = 8 then some (front.values, front.rest)
  else if front.endsDotted then none
  else
    match front.rest with
    | ':' :: ':' :: rest =>
      let back := groups (7 - front.values.length) true rest
      let missing := 8 - front.values.length - back.values.length
      some (front.values ++ List.replicate missing 0 ++ back.values, back.rest)
    | _ => none

/-- Reads a text that is an address and nothing else. -/
def ofChars? (text : List Char) : Option Address :=
  match dotted? text with
  | some (value, []) => some (.v4 (BitVec.ofNat 32 value))
  | some _ => none
  | none =>
    match colonGroups? text with
    | some (values, []) =>
      some (.v6 (BitVec.ofNat 128 (values.foldl (fun value group => 65536 * value + group) 0)))
    | _ => none

/-- The IPv6 address in which an IPv4 address is mapped: `::ffff:` and the address. -/
def mapped (bits : BitVec 32) : BitVec 128 :=
  (0xFFFF : BitVec 96) ++ bits

/-- An address with a mapped IPv4 address taken out of its IPv6 form. -/
def canonical : Address → Address
  | .v4 bits => .v4 bits
  | .v6 bits =>
      let low := bits.setWidth 32
      if bits = mapped low then .v4 low else .v6 bits

end Address

end RegisterGateway.Access
