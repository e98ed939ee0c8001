/-!
# Reading damaged UTF-8

The characters that bytes denote in UTF-8, where every longest piece that starts like a
character and is none becomes one replacement character.
-/

namespace RegisterGateway.Text

/-- What stands for bytes that are no character. -/
def replacement : Char := '\ufffd'

/-- Whether a byte goes on with a character. -/
def isContinuation (byte : UInt8) : Bool :=
  0x80 ≤ byte && byte ≤ 0xBF

/-- Whether two bytes start a character of three bytes. -/
def startsThree (first second : UInt8) : Bool :=
  (first == 0xE0 && 0xA0 ≤ second && second ≤ 0xBF) ||
    (first == 0xED && 0x80 ≤ second && second ≤ 0x9F) ||
    (((0xE1 ≤ first && first ≤ 0xEC) || (0xEE ≤ first && first ≤ 0xEF)) && isContinuation second)

/-- Whether two bytes start a character of four bytes. -/
def startsFour (first second : UInt8) : Bool :=
  (first == 0xF0 && 0x90 ≤ second && second ≤ 0xBF) ||
    (first == 0xF4 && 0x80 ≤ second && second ≤ 0x8F) ||
    (0xF1 ≤ first && first ≤ 0xF3 && isContinuation second)

/-- The six bits that a continuation byte carries. -/
def carried (byte : UInt8) : Nat :=
  byte.toNat % 64

def lossyChars : List UInt8 → List Char
  | [] => []
  | first :: rest =>
    if first < 0x80 then Char.ofNat first.toNat :: lossyChars rest
    else match rest with
      | [] => [replacement]
      | second :: rest' =>
        if 0xC2 ≤ first && first ≤ 0xDF && isContinuation second then
          Char.ofNat (first.toNat % 32 * 64 + carried second) :: lossyChars rest'
        else if startsThree first second then
          match rest' with
          | [] => [replacement]
          | third :: rest'' =>
            if isContinuation third then
              Char.ofNat ((first.toNat % 16 * 64 + carried second) * 64 + carried third) ::
                lossyChars rest''
            else replacement :: lossyChars (third :: rest'')
        else if startsFour first second then
          match rest' with
          | [] => [replacement]
          | third :: rest'' =>
            if isContinuation third then
              match rest'' with
              | [] => [replacement]
              | fourth :: rest''' =>
                if isContinuation fourth then
                  Char.ofNat (((first.toNat % 8 * 64 + carried second) * 64 + carried third) * 64 +
                    carried fourth) :: lossyChars rest'''
                else replacement :: lossyChars (fourth :: rest''')
            else replacement :: lossyChars (third :: rest'')
        else replacement :: lossyChars (second :: rest')

end RegisterGateway.Text
