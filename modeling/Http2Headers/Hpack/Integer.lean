import Http2Headers.Hpack.Error

/-!
# HPACK integers

An integer (RFC 7541, section 5.1) starts in the low `prefix` bits of its first octet. If those
bits are not all ones they are the value. Otherwise the value goes on in continuation octets,
seven bits each, least significant group first, each octet but the last with its high bit set.
At most five octets are read, the first included: a sixth is `tooManyOctets`, and a block that
ends first is `notEnoughOctets`. Decoding yields the value and the octets after the integer.
-/

namespace Http2Headers.Hpack

/-- The largest value the low `prefix` bits of an octet hold. -/
def prefixMask (prefixBits : Nat) : Nat :=
  (1 <<< prefixBits) - 1

/-- The continuation octets of an integer: `value` so far, `shift` the weight of the next group,
`used` the octets read so far. -/
def continueInteger (value shift used : Nat) : List UInt8 → Except DecodeError (Nat × List UInt8)
  | [] => .error (.integer .notEnoughOctets)
  | b :: bs =>
    let value := value + ((b.toNat % 128) <<< shift)
    if b.toNat < 128 then .ok (value, bs)
    else if used + 1 = 5 then .error (.integer .tooManyOctets)
    else continueInteger value (shift + 7) (used + 1) bs

/-- An integer with a `prefixBits`-bit prefix, and the octets after it. -/
def decodeInteger (prefixBits : Nat) : List UInt8 → Except DecodeError (Nat × List UInt8)
  | [] => .error (.integer .notEnoughOctets)
  | b :: bs =>
    let value := b.toNat &&& prefixMask prefixBits
    if value < prefixMask prefixBits then .ok (value, bs)
    else continueInteger value 0 1 bs

theorem continueInteger_rest {value shift used : Nat} {bs rest : List UInt8} {n : Nat}
    (h : continueInteger value shift used bs = .ok (n, rest)) : rest.length < bs.length := by
  induction bs generalizing value shift used with
  | nil => simp [continueInteger] at h
  | cons b bs ih =>
    simp only [continueInteger] at h
    split at h
    · cases h; simp
    · split at h
      · cases h
      · have := ih h; simp; omega

/-- What follows an integer is shorter than what it was read from. -/
theorem decodeInteger_rest {p : Nat} {bs rest : List UInt8} {n : Nat}
    (h : decodeInteger p bs = .ok (n, rest)) : rest.length < bs.length := by
  cases bs with
  | nil => simp [decodeInteger] at h
  | cons b bs =>
    simp only [decodeInteger] at h
    split at h
    · cases h; simp
    · have := continueInteger_rest h; simp; omega

example : (decodeInteger 5 [0x0A]).toOption = some (10, []) := by decide
example : (decodeInteger 5 [0x1F, 0x9A, 0x0A]).toOption = some (1337, []) := by decide
example : (decodeInteger 5 [0x1F, 0x80, 0x80, 0x80, 0x80, 0x00]).toOption = none := by decide

end Http2Headers.Hpack
