/-!
# Decimal numerals

Status codes, ports and content lengths are written in decimal. A numeral is one or more ASCII
digits; any number of leading zeros is allowed, and the value decides whether it is in range. An
unsigned numeral may start with `+`; a signed one with `+` or `-`. No other sign, no blank and no
non-ASCII digit is accepted.
-/

namespace Http2Headers.Text

/-- The value of an ASCII digit. -/
def digitValue? (c : Char) : Option Nat :=
  if '0' ≤ c ∧ c ≤ '9' then some (c.toNat - '0'.toNat) else none

/-- The value of the digits read so far, `acc`, extended by the digits of `cs`; `none` as soon as a
character is no ASCII digit. -/
def digitsFrom (acc : Nat) : List Char → Option Nat
  | [] => some acc
  | c :: cs => (digitValue? c).bind fun d => digitsFrom (10 * acc + d) cs

/-- The value of a nonempty run of ASCII digits. -/
def digitsValue? : List Char → Option Nat
  | [] => none
  | cs => digitsFrom 0 cs

/-- The value of an unsigned numeral of at most `bound`, after an optional `+`. -/
def readUnsigned? (bound : Nat) (s : String) : Option Nat :=
  let digits := match s.toList with
    | '+' :: cs => cs
    | cs => cs
  (digitsValue? digits).filter (· ≤ bound)

/-- The value of a signed numeral within `lo` and `hi`, after an optional `+` or `-`. -/
def readSigned? (lo hi : Int) (s : String) : Option Int :=
  let value : Option Int := match s.toList with
    | '+' :: cs => (digitsValue? cs).map Int.ofNat
    | '-' :: cs => (digitsValue? cs).map fun n => -Int.ofNat n
    | cs => (digitsValue? cs).map Int.ofNat
  value.filter fun v => lo ≤ v && v ≤ hi

/-- A 16-bit unsigned numeral: a status code. -/
def readU16? (s : String) : Option UInt16 :=
  (readUnsigned? 65535 s).map UInt16.ofNat

/-- A 64-bit signed numeral: a content length. -/
def readI64? (s : String) : Option Int64 :=
  (readSigned? Int64.minValue.toInt Int64.maxValue.toInt s).map Int64.ofInt

example : readUnsigned? 65535 "+0065535" = some 65535 := by decide
example : readUnsigned? 65535 "-0" = none := by decide
example : readSigned? (-2 ^ 63) (2 ^ 63 - 1) "-9223372036854775808" = some (-2 ^ 63) := by decide

end Http2Headers.Text
