import Http2Headers.Hpack.StringLiteral
import Http2Headers.Hpack.Table

/-!
# Decoding HPACK header blocks

A header block is a sequence of representations (RFC 7541, section 6), each told apart by the
high bits of its first octet:

    1xxxxxxx   indexed field, index with a 7-bit prefix
    01xxxxxx   literal field added to the dynamic table, name index with a 6-bit prefix
    001xxxxx   dynamic table size update, new bound with a 5-bit prefix
    0001xxxx   literal field never to be indexed, name index with a 4-bit prefix
    0000xxxx   literal field not indexed, name index with a 4-bit prefix

A literal's name index of 0 means a literal name follows; any other index names a table entry,
which is looked up before the value is read. Decoding a block yields its fields in order and the
dynamic table after it. A block that fails to decode yields no field, but the entries it added
and the size updates it made before the failure stay in the table. A block may not end with a
size update.

A size update whose integer cannot be read is not an ordinary error: decoding gives up at that
point (`Halt.abandoned`), the table again keeping what the block did before.
-/

namespace Http2Headers.Hpack

/-- Why decoding a block stopped before its end: the block is malformed, or a size update's
integer could not be read and decoding was given up. -/
inductive Halt where
  | error (e : DecodeError)
  | abandoned
deriving DecidableEq, Repr

/-- What one representation does: yield a field, yield it and add it to the dynamic table, or set
the dynamic table's bound. -/
inductive Action where
  | emit (e : Entry)
  | emitAndIndex (e : Entry)
  | resize (maxSize : Nat)
deriving DecidableEq, Repr

/-- A literal field whose name index has a `prefixBits`-bit prefix, and the octets after it. -/
def readLiteral (t : Table) (prefixBits : Nat) (bs : List UInt8) :
    Except DecodeError (Entry × List UInt8) :=
  match decodeInteger prefixBits bs with
  | .error e => .error e
  | .ok (0, rest) =>
    match decodeString rest with
    | .error e => .error e
    | .ok (name, rest) =>
      match decodeString rest with
      | .error e => .error e
      | .ok (value, rest) => .ok (⟨name, value⟩, rest)
  | .ok (index, rest) =>
    match t.lookup index with
    | .error e => .error e
    | .ok entry =>
      match decodeString rest with
      | .error e => .error e
      | .ok (value, rest) => .ok (⟨entry.name, value⟩, rest)

/-- An indexed field and the octets after it. -/
def readIndexed (t : Table) (bs : List UInt8) : Except DecodeError (Entry × List UInt8) :=
  match decodeInteger 7 bs with
  | .error e => .error e
  | .ok (index, rest) =>
    match t.lookup index with
    | .error e => .error e
    | .ok entry => .ok (entry, rest)

/-- The five kinds of representation: an indexed field, a literal added to the dynamic table, a
dynamic table size update, a literal never to be indexed, and a literal not indexed. -/
inductive Form where
  | indexed
  | incremental
  | sizeUpdate
  | neverIndexed
  | notIndexed
deriving DecidableEq, Repr

/-- The kind of representation a first octet starts. -/
def formOf (b : UInt8) : Form :=
  if b.toNat ≥ 128 then .indexed
  else if b.toNat ≥ 64 then .incremental
  else if b.toNat ≥ 32 then .sizeUpdate
  else if b.toNat ≥ 16 then .neverIndexed
  else .notIndexed

/-- One representation and the octets after it. -/
def readRepresentation (t : Table) (bs : List UInt8) : Except Halt (Action × List UInt8) :=
  match formOf ((bs.head?).getD 0) with
  | .indexed =>
    match readIndexed t bs with
    | .ok (e, rest) => .ok (.emit e, rest)
    | .error e => .error (.error e)
  | .incremental =>
    match readLiteral t 6 bs with
    | .ok (e, rest) => .ok (.emitAndIndex e, rest)
    | .error e => .error (.error e)
  | .sizeUpdate =>
    match decodeInteger 5 bs with
    | .ok (maxSize, rest) => .ok (.resize maxSize, rest)
    | .error _ => .error .abandoned
  | .neverIndexed | .notIndexed =>
    match readLiteral t 4 bs with
    | .ok (e, rest) => .ok (.emit e, rest)
    | .error e => .error (.error e)

theorem readIndexed_rest {t : Table} {bs rest : List UInt8} {e : Entry}
    (h : readIndexed t bs = .ok (e, rest)) : rest.length < bs.length := by
  unfold readIndexed at h
  split at h
  · cases h
  · rename_i r1 h1
    split at h
    · cases h
    · cases h; exact decodeInteger_rest h1

theorem readLiteral_rest {t : Table} {p : Nat} {bs rest : List UInt8} {e : Entry}
    (h : readLiteral t p bs = .ok (e, rest)) : rest.length < bs.length := by
  unfold readLiteral at h
  split at h
  · cases h
  · rename_i r1 h1
    have l1 := decodeInteger_rest h1
    split at h
    · cases h
    · rename_i r2 h2
      have l2 := decodeString_rest h2
      split at h
      · cases h
      · rename_i r3 h3
        have l3 := decodeString_rest h3
        cases h; omega
  · rename_i r1 h1
    have l1 := decodeInteger_rest h1
    split at h
    · cases h
    · split at h
      · cases h
      · rename_i r3 h3
        have l3 := decodeString_rest h3
        cases h; omega

/-- What follows a representation is shorter than what it was read from. -/
theorem readRepresentation_rest {t : Table} {bs rest : List UInt8} {a : Action}
    (h : readRepresentation t bs = .ok (a, rest)) : rest.length < bs.length := by
  unfold readRepresentation at h
  split at h
  · split at h
    · rename_i r hr; cases h; exact readIndexed_rest hr
    · cases h
  · split at h
    · rename_i r hr; cases h; exact readLiteral_rest hr
    · cases h
  · split at h
    · rename_i r hr; cases h; exact decodeInteger_rest hr
    · cases h
  · split at h
    · rename_i r hr; cases h; exact readLiteral_rest hr
    · cases h
  · split at h
    · rename_i r hr; cases h; exact readLiteral_rest hr
    · cases h

/-- The fields of the rest of a block, after the table `t`, the fields so far `acc` (newest
first) and whether the last representation was a size update. -/
def decodeFrom (t : Table) (acc : List Entry) (lastResized : Bool) (bs : List UInt8) :
    Table × Except Halt (List Entry) :=
  match bs with
  | [] => (t, if lastResized then .error (.error .sizeUpdateAtEnd) else .ok acc.reverse)
  | b :: bs' =>
    match h : readRepresentation t (b :: bs') with
    | .error halt => (t, .error halt)
    | .ok (action, rest) =>
      have : rest.length < bs'.length + 1 := readRepresentation_rest h
      match action with
      | .emit e => decodeFrom t (e :: acc) false rest
      | .emitAndIndex e => decodeFrom (t.insert e) (e :: acc) false rest
      | .resize maxSize => decodeFrom (t.resize maxSize) acc true rest
termination_by bs.length

/-- The fields of a header block and the dynamic table after it. -/
def decodeBlock (t : Table) (bs : List UInt8) : Table × Except Halt (List Entry) :=
  decodeFrom t [] false bs

end Http2Headers.Hpack
