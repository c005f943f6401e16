/-!
# Bytes and little-endian words

Messages are plain lists of bytes. Words of two and four bytes are read and
written with the least significant byte first. The main statements say that
reading a written word gives it back and that writing a read word restores the
bytes.
-/

namespace RadioRelay

abbrev Bytes := List UInt8

namespace Bytes

/-- The word of two bytes, the low byte first. -/
def word16 (low high : UInt8) : UInt16 :=
  UInt16.ofNat (low.toNat + 256 * high.toNat)

def ofWord16 (word : UInt16) : Bytes :=
  [UInt8.ofNat word.toNat, UInt8.ofNat (word.toNat / 256)]

/-- The word of four bytes, the lowest byte first. -/
def word32 (first second third fourth : UInt8) : UInt32 :=
  UInt32.ofNat
    (first.toNat + 256 * second.toNat + 65536 * third.toNat + 16777216 * fourth.toNat)

def ofWord32 (word : UInt32) : Bytes :=
  [UInt8.ofNat word.toNat, UInt8.ofNat (word.toNat / 256),
    UInt8.ofNat (word.toNat / 65536), UInt8.ofNat (word.toNat / 16777216)]

@[simp]
theorem length_ofWord16 (word : UInt16) : (ofWord16 word).length = 2 := rfl

@[simp]
theorem length_ofWord32 (word : UInt32) : (ofWord32 word).length = 4 := rfl

theorem word16_ofNat (word : UInt16) :
    word16 (UInt8.ofNat word.toNat) (UInt8.ofNat (word.toNat / 256)) = word := by
  have bound := word.toNat_lt
  apply UInt16.toNat_inj.mp
  simp only [word16, UInt16.toNat_ofNat', UInt8.toNat_ofNat']
  omega

theorem word32_ofNat (word : UInt32) :
    word32 (UInt8.ofNat word.toNat) (UInt8.ofNat (word.toNat / 256))
      (UInt8.ofNat (word.toNat / 65536)) (UInt8.ofNat (word.toNat / 16777216)) = word := by
  have bound := word.toNat_lt
  apply UInt32.toNat_inj.mp
  simp only [word32, UInt32.toNat_ofNat', UInt8.toNat_ofNat']
  omega

@[simp]
theorem ofWord16_word16 (low high : UInt8) : ofWord16 (word16 low high) = [low, high] := by
  have lowBound := low.toNat_lt
  have highBound := high.toNat_lt
  simp only [ofWord16, word16, UInt16.toNat_ofNat', List.cons.injEq, and_true]
  constructor <;> apply UInt8.toNat_inj.mp <;> simp only [UInt8.toNat_ofNat'] <;> omega

@[simp]
theorem ofWord32_word32 (first second third fourth : UInt8) :
    ofWord32 (word32 first second third fourth) = [first, second, third, fourth] := by
  have firstBound := first.toNat_lt
  have secondBound := second.toNat_lt
  have thirdBound := third.toNat_lt
  have fourthBound := fourth.toNat_lt
  simp only [ofWord32, word32, UInt32.toNat_ofNat', List.cons.injEq, and_true]
  refine ⟨?_, ?_, ?_, ?_⟩ <;> apply UInt8.toNat_inj.mp <;>
    simp only [UInt8.toNat_ofNat'] <;> omega

end Bytes

end RadioRelay
