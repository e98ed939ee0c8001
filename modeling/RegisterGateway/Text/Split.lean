/-!
# Splitting texts

Addresses end in a part behind their last colon, which may occur more than once.
-/

namespace RegisterGateway.Text

/-- The parts of a text before and after the last occurrence of a character, if it has one. -/
def splitAtLast? (separator : Char) (text : List Char) : Option (List Char × List Char) :=
  let back := text.reverse
  match back.dropWhile (· ≠ separator) with
  | _ :: front => some (front.reverse, (back.takeWhile (· ≠ separator)).reverse)
  | [] => none

end RegisterGateway.Text
