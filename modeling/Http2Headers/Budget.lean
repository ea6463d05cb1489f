/-!
# Size arithmetic

Block sizes are counted in a machine word: sums and products that would pass its greatest value
stop there instead of wrapping. A Huffman-coded string may decode to at most 4/3 of its encoded
length, which is what the size check assumes before decoding it.
-/

namespace Http2Headers

/-- The greatest size a machine word holds, 2^64 - 1. -/
def sizeCeiling : Nat := 18446744073709551615

/-- Addition that stops at `sizeCeiling`. -/
def addSat (a b : Nat) : Nat :=
  min (a + b) sizeCeiling

/-- Multiplication that stops at `sizeCeiling`. -/
def mulSat (a b : Nat) : Nat :=
  min (a * b) sizeCeiling

/-- The most octets a string of `length` encoded octets may decode to. -/
def decodedBound (length : Nat) (huffman : Bool) : Nat :=
  if huffman then mulSat length 4 / 3 else length

example : decodedBound 50 true = 66 ∧ decodedBound 51 true = 68 := by decide

end Http2Headers
