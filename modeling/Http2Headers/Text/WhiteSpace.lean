/-!
# Unicode white space and trimming

Numbers in header values are read after trimming white space at both ends. White space here is the
Unicode property `White_Space`: 25 code points in 10 ranges. It includes U+0085, U+00A0, U+2028
and U+3000; it does not include U+200B (zero width space) or U+180E (Mongolian vowel separator).
-/

namespace Http2Headers.Text

/-- The code points of `White_Space`, as closed ranges, ascending and apart. -/
def whiteSpaceRanges : List (Nat × Nat) :=
  [(0x09, 0x0D), (0x20, 0x20), (0x85, 0x85), (0xA0, 0xA0), (0x1680, 0x1680), (0x2000, 0x200A),
   (0x2028, 0x2029), (0x202F, 0x202F), (0x205F, 0x205F), (0x3000, 0x3000)]

/-- Whether `n` lies in one of the closed ranges. -/
def inRanges (rs : List (Nat × Nat)) (n : Nat) : Bool :=
  rs.any fun r => r.1 ≤ n && n ≤ r.2

/-- Whether the character has the Unicode `White_Space` property. -/
def isWhiteSpace (c : Char) : Bool :=
  inRanges whiteSpaceRanges c.toNat

/-- The characters with white space removed at both ends. -/
def trimChars (cs : List Char) : List Char :=
  ((cs.dropWhile isWhiteSpace).reverse.dropWhile isWhiteSpace).reverse

/-- The text with white space removed at both ends. -/
def trim (s : String) : String :=
  String.ofList (trimChars s.toList)

example : trimChars " 　 42\u0085 ".toList = "42".toList := by decide
example : trimChars "​42".toList = "​42".toList := by decide

end Http2Headers.Text
