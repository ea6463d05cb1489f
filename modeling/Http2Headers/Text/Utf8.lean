/-!
# UTF-8 decoding

Header names and values arrive as octets. A sequence of octets is valid UTF-8 when it splits into
well-formed sequences (RFC 3629): an ASCII octet, or a lead octet followed by one to three
continuation octets, where the first continuation octet's range depends on the lead so that
overlong forms, surrogates and code points past U+10FFFF are excluded:

    lead      count   first continuation
    00-7F     0       -
    C2-DF     1       80-BF
    E0        2       A0-BF
    E1-EC     2       80-BF
    ED        2       80-9F
    EE-EF     2       80-BF
    F0        3       90-BF
    F1-F3     3       80-BF
    F4        3       80-8F

Later continuation octets lie in 80-BF. Reading is a left-to-right scan that yields one unit per
well-formed sequence and one unit per *maximal subpart* of an ill-formed one: the longest prefix
of a well-formed sequence that the octets start with, or a single octet if there is none. A lossy
reading writes U+FFFD for each ill-formed unit, so `ED A0 80` gives three replacement characters
and a truncated `E2 82` at the end gives one.
-/

namespace Http2Headers.Text.Utf8

/-- A sequence begun but not finished: the code point bits read so far, how many continuation
octets are still missing, and the range the next one must lie in. -/
structure Pending where
  bits : Nat
  missing : Nat
  lo : UInt8
  hi : UInt8
deriving DecidableEq, Repr

/-- What a lead octet starts: a complete ASCII character, a pending sequence, or nothing valid. -/
inductive Lead where
  | ascii (c : Char)
  | pending (p : Pending)
  | invalid
deriving DecidableEq, Repr

/-- Classifies a first octet by the table above. -/
def lead (b : UInt8) : Lead :=
  let n := b.toNat
  if n < 0x80 then .ascii (Char.ofNat n)
  else if n < 0xC2 then .invalid
  else if n < 0xE0 then .pending ⟨n - 0xC0, 1, 0x80, 0xBF⟩
  else if n = 0xE0 then .pending ⟨0, 2, 0xA0, 0xBF⟩
  else if n = 0xED then .pending ⟨0xD, 2, 0x80, 0x9F⟩
  else if n < 0xF0 then .pending ⟨n - 0xE0, 2, 0x80, 0xBF⟩
  else if n = 0xF0 then .pending ⟨0, 3, 0x90, 0xBF⟩
  else if n < 0xF4 then .pending ⟨n - 0xF0, 3, 0x80, 0xBF⟩
  else if n = 0xF4 then .pending ⟨4, 3, 0x80, 0x8F⟩
  else .invalid

/-- The units read from the octets: `some c` for a well-formed sequence, `none` for a maximal
subpart of an ill-formed one. `state` is the sequence in progress, if any. An octet that breaks a
pending sequence ends that unit and is then read afresh as a first octet. -/
def unitsFrom : Option Pending → List UInt8 → List (Option Char)
  | none, [] => []
  | some _, [] => [none]
  | none, b :: bs =>
    match lead b with
    | .ascii c => some c :: unitsFrom none bs
    | .pending p => unitsFrom (some p) bs
    | .invalid => none :: unitsFrom none bs
  | some p, b :: bs =>
    if p.lo ≤ b ∧ b ≤ p.hi then
      let bits := 64 * p.bits + (b.toNat - 0x80)
      match p.missing with
      | 1 => some (Char.ofNat bits) :: unitsFrom none bs
      | m => unitsFrom (some ⟨bits, m - 1, 0x80, 0xBF⟩) bs
    else
      match lead b with
      | .ascii c => none :: some c :: unitsFrom none bs
      | .pending q => none :: unitsFrom (some q) bs
      | .invalid => none :: none :: unitsFrom none bs

/-- The units of a whole octet sequence. -/
def units (bs : List UInt8) : List (Option Char) :=
  unitsFrom none bs

/-- The characters of valid UTF-8, or `none` if any unit is ill-formed. -/
def decode? (bs : List UInt8) : Option String :=
  (units bs).mapM id |>.map String.ofList

/-- The characters of the octets with U+FFFD for each ill-formed unit. -/
def decodeLossy (bs : List UInt8) : String :=
  String.ofList ((units bs).map fun u => u.getD '�')

example : decode? [0x68, 0xC3, 0xA9] = some "hé" := by decide
example : decode? [0xC3] = none := by decide
example : decodeLossy [0xED, 0xA0, 0x80] = "���" := by decide
example : decodeLossy [0xF4, 0x90, 0x80, 0x80] = "����" := by decide
example : decodeLossy [0x61, 0xE2, 0x82] = "a�" := by decide
example : decodeLossy [0xF0, 0x9F, 0x98, 0x80, 0x80] = "😀�" := by decide

end Http2Headers.Text.Utf8
