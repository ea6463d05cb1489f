import Http2Headers.Hpack.Error

/-!
# The HPACK Huffman code

Strings may be Huffman-coded with the fixed code of RFC 7541, appendix B: 256 octet symbols and
an end-of-string symbol (256), with codes of 5 to 30 bits. The code is canonical, so the lengths
alone determine it: codes of one length are consecutive numbers in symbol order, and the first
code of each length follows the last code of the length before it, shifted left by one bit.

Decoding reads bits from the most significant end of each octet, and emits a symbol as soon as
the bits read since the last symbol form its code. The end-of-string symbol may not occur. What
is left at the end is padding: at most seven bits, all ones (a prefix of the end-of-string
code).
-/

namespace Http2Headers.Hpack.Huffman

/-- The code length of each symbol, the end-of-string symbol last. -/
def codeLengths : List Nat :=
  [13, 23, 28, 28, 28, 28, 28, 28, 28, 24, 30, 28, 28, 30, 28, 28,
   28, 28, 28, 28, 28, 28, 30, 28, 28, 28, 28, 28, 28, 28, 28, 28,
   6, 10, 10, 12, 13, 6, 8, 11, 10, 10, 8, 11, 8, 6, 6, 6,
   5, 5, 5, 6, 6, 6, 6, 6, 6, 6, 7, 8, 15, 6, 12, 10,
   13, 6, 7, 7, 7, 7, 7, 7, 7, 7, 7, 7, 7, 7, 7, 7,
   7, 7, 7, 7, 7, 7, 7, 7, 8, 7, 8, 13, 19, 13, 14, 6,
   15, 5, 6, 5, 6, 5, 6, 6, 6, 5, 7, 7, 6, 6, 6, 5,
   6, 7, 6, 5, 5, 6, 7, 7, 7, 7, 7, 15, 11, 14, 13, 28,
   20, 22, 20, 20, 22, 22, 22, 23, 22, 23, 23, 23, 23, 23, 24, 23,
   24, 24, 22, 23, 24, 23, 23, 23, 23, 21, 22, 23, 22, 23, 23, 24,
   22, 21, 20, 22, 22, 23, 23, 21, 23, 22, 22, 24, 21, 22, 23, 23,
   21, 21, 22, 21, 23, 22, 23, 23, 20, 22, 22, 22, 23, 22, 22, 23,
   26, 26, 20, 19, 22, 23, 22, 25, 26, 26, 26, 27, 27, 26, 24, 25,
   19, 21, 26, 27, 27, 26, 27, 24, 21, 21, 26, 26, 28, 27, 27, 27,
   20, 24, 20, 21, 22, 21, 21, 23, 22, 22, 25, 25, 24, 24, 26, 23,
   26, 27, 26, 26, 27, 27, 27, 27, 27, 28, 27, 27, 27, 27, 27, 26,
   30]

/-- The end-of-string symbol. -/
def endOfString : Nat := 256

/-- The longest code. -/
def maxCodeLength : Nat := 30

/-- The symbols whose code has length `l`, in ascending order. -/
def symbolsOfLength (l : Nat) : List Nat :=
  ((codeLengths.zipIdx).filter (·.1 = l)).map (·.2)

/-- The first code of length `l`: the code after the last one of length `l - 1`, shifted left. -/
def firstCode : Nat → Nat
  | 0 => 0
  | l + 1 => 2 * (firstCode l + (symbolsOfLength l).length)

/-- `symbolsOfLength`, computed once for every length. -/
def symbolTable : Array (List Nat) :=
  (Array.range (maxCodeLength + 1)).map symbolsOfLength

/-- `firstCode`, computed once for every length. -/
def firstCodeTable : Array Nat :=
  (Array.range (maxCodeLength + 1)).map firstCode

/-- The symbol whose code is `code`, `length` bits long, if there is one. -/
def symbolOf? (length code : Nat) : Option Nat :=
  match symbolTable[length]?, firstCodeTable[length]? with
  | some symbols, some first => if first ≤ code then symbols[code - first]? else none
  | _, _ => none

/-- The decoder between two bits: the octets decoded so far, newest first, and the bits read
since the last symbol. -/
structure Reader where
  decoded : List UInt8 := []
  code : Nat := 0
  length : Nat := 0
deriving DecidableEq, Repr

/-- The reader after one more bit. -/
def Reader.push (r : Reader) (bit : Bool) : Except HuffmanError Reader :=
  let code := 2 * r.code + (if bit then 1 else 0)
  let length := r.length + 1
  match symbolOf? length code with
  | none => .ok { r with code, length }
  | some s =>
    if s = endOfString then .error .eosInString
    else .ok { decoded := UInt8.ofNat s :: r.decoded }

/-- The bits of an octet, most significant first. -/
def bitsOf (b : UInt8) : List Bool :=
  (List.range 8).reverse.map fun i => b.toNat.testBit i

/-- The reader's result once the bits are done: the bits left must be at most seven ones. -/
def Reader.finish (r : Reader) : Except HuffmanError (List UInt8) :=
  if r.length > 7 then .error .paddingTooLarge
  else if r.code ≠ (1 <<< r.length) - 1 then .error .invalidPadding
  else .ok r.decoded.reverse

/-- The octets a Huffman-coded string stands for. -/
def decode (bs : List UInt8) : Except HuffmanError (List UInt8) :=
  ((bs.flatMap bitsOf).foldlM Reader.push {}).bind Reader.finish

end Http2Headers.Hpack.Huffman
