import Http2Headers.Hpack.Integer
import Http2Headers.Hpack.Huffman

/-!
# HPACK string literals

A string literal (RFC 7541, section 5.2) is a flag bit `H`, the octet length as an integer with a
7-bit prefix, then that many octets: the string itself, or its Huffman code when `H` is set. A
length that runs past the block is `notEnoughOctets`.
-/

namespace Http2Headers.Hpack

/-- The octets of a string literal and the octets after it. -/
def decodeString (bs : List UInt8) : Except DecodeError (List UInt8 × List UInt8) :=
  match decodeInteger 7 bs with
  | .error e => .error e
  | .ok (length, rest) =>
    if length > rest.length then .error (.string .notEnoughOctets)
    else
      let raw := rest.take length
      let after := rest.drop length
      if bs.head?.any (·.toNat ≥ 128) then
        match Huffman.decode raw with
        | .ok text => .ok (text, after)
        | .error e => .error (.string (.huffman e))
      else .ok (raw, after)

/-- What follows a string literal is shorter than what it was read from. -/
theorem decodeString_rest {bs s rest : List UInt8}
    (h : decodeString bs = .ok (s, rest)) : rest.length < bs.length := by
  unfold decodeString at h
  split at h
  · cases h
  · rename_i length after hint
    have hlt := decodeInteger_rest hint
    split at h
    · cases h
    · dsimp only at h
      split at h
      · split at h
        · cases h; simp; omega
        · cases h
      · cases h; simp; omega

example : (decodeString [0x03, 0x61, 0x62, 0x63, 0x7F]).toOption = some ([0x61, 0x62, 0x63], [0x7F]) := by
  decide
example : (decodeString [0x04, 0x61]).toOption = none := by decide

end Http2Headers.Hpack
