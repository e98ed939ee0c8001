/-!
# Taking exactly so many bytes

Cuts a number of bytes off the front of a list, if the list has that many.
-/

namespace RegisterGateway.Wire

/-- The first bytes of a list and the others, if there are enough of them. -/
def takeExact? (count : Nat) (bytes : List UInt8) : Option (List UInt8 × List UInt8) :=
  let front := bytes.take count
  if front.length = count then some (front, bytes.drop count) else none

theorem takeExact?_eq_some_iff {count : Nat} {bytes front rest : List UInt8} :
    takeExact? count bytes = some (front, rest) ↔
      bytes = front ++ rest ∧ front.length = count := by
  simp only [takeExact?, Option.ite_none_right_eq_some, Option.some.injEq, Prod.mk.injEq]
  constructor
  · rintro ⟨enough, rfl, rfl⟩
    exact ⟨(List.take_append_drop count bytes).symm, enough⟩
  · rintro ⟨rfl, rfl⟩
    simp

theorem takeExact?_append {count : Nat} {front : List UInt8} (size : front.length = count)
    (rest : List UInt8) : takeExact? count (front ++ rest) = some (front, rest) :=
  takeExact?_eq_some_iff.2 ⟨rfl, size⟩

theorem takeExact?_eq_none_iff {count : Nat} {bytes : List UInt8} :
    takeExact? count bytes = none ↔ bytes.length < count := by
  simp only [takeExact?, ite_eq_right_iff, reduceCtorEq, imp_false, List.length_take]
  omega

end RegisterGateway.Wire
