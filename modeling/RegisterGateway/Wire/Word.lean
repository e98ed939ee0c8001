/-!
# Sixteen-bit words on the wire

A word travels as two bytes, the more significant one first.
-/

namespace RegisterGateway.Wire

/-- The word of a more and a less significant byte. -/
def wordOfBytes (high low : UInt8) : UInt16 :=
  UInt16.ofNat (high.toNat * 256 + low.toNat)

/-- The two bytes of a word, the more significant one first. -/
def wordBytes (word : UInt16) : List UInt8 :=
  [UInt8.ofNat (word.toNat / 256), UInt8.ofNat (word.toNat % 256)]

/-- The words of a list of bytes, taken in pairs; an odd last byte is left out. -/
def wordsOfBytes : List UInt8 → List UInt16
  | high :: low :: rest => wordOfBytes high low :: wordsOfBytes rest
  | _ => []

def bytesOfWords (words : List UInt16) : List UInt8 :=
  words.flatMap wordBytes

@[simp] theorem toNat_wordOfBytes (high low : UInt8) :
    (wordOfBytes high low).toNat = high.toNat * 256 + low.toNat := by
  have := high.toNat_lt
  have := low.toNat_lt
  simp only [wordOfBytes, UInt16.toNat_ofNat']
  omega

theorem wordOfBytes_wordBytes (word : UInt16) :
    wordOfBytes (UInt8.ofNat (word.toNat / 256)) (UInt8.ofNat (word.toNat % 256)) = word := by
  have := word.toNat_lt
  apply UInt16.toNat_inj.1
  simp only [toNat_wordOfBytes, UInt8.toNat_ofNat']
  omega

@[simp] theorem wordBytes_wordOfBytes (high low : UInt8) :
    wordBytes (wordOfBytes high low) = [high, low] := by
  have := high.toNat_lt
  have := low.toNat_lt
  simp only [wordBytes, toNat_wordOfBytes, List.cons.injEq, and_true]
  constructor <;> apply UInt8.toNat_inj.1 <;> simp only [UInt8.toNat_ofNat'] <;> omega

@[simp] theorem length_bytesOfWords (words : List UInt16) :
    (bytesOfWords words).length = 2 * words.length := by
  induction words with
  | nil => rfl
  | cons word rest ih => simp_all [bytesOfWords, wordBytes]; omega

/-- Words survive the wire. -/
@[simp] theorem wordsOfBytes_bytesOfWords (words : List UInt16) :
    wordsOfBytes (bytesOfWords words) = words := by
  induction words with
  | nil => rfl
  | cons word rest ih =>
    simpa [bytesOfWords, wordBytes, wordsOfBytes, wordOfBytes_wordBytes] using ih

end RegisterGateway.Wire
