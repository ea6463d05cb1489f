/-!
# ASCII case folding

Header names, schemes and the `te` value are compared ignoring ASCII case only: `A`–`Z` fold to
`a`–`z` and every other character, non-ASCII letters included, stands for itself. So `É` never
matches `é`, and `ı` (dotless i) never matches `i`.
-/

namespace Http2Headers.Text

/-- The lower-case form of an ASCII capital; every other character is unchanged. -/
def asciiLower (c : Char) : Char :=
  if 'A' ≤ c ∧ c ≤ 'Z' then Char.ofNat (c.toNat + 32) else c

/-- The text with its ASCII capitals lowered. -/
def asciiLowerAll (s : String) : List Char :=
  s.toList.map asciiLower

/-- Two texts are equal ignoring ASCII case: same length, and equal character by character once
ASCII capitals are lowered. -/
def eqIgnoreAsciiCase (s t : String) : Bool :=
  asciiLowerAll s == asciiLowerAll t

example : eqIgnoreAsciiCase "Content-Length" "content-length" = true := by decide
example : eqIgnoreAsciiCase "É" "é" = false := by decide

end Http2Headers.Text
