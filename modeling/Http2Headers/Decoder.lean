import Http2Headers.Builder
import Http2Headers.Config
import Http2Headers.Hpack.HeaderBlock
import Http2Headers.Text.Utf8

/-!
# Decoding header blocks into metadata

A `Decoder` serves one direction of a connection: the state of its HPACK layer, which lives as
long as the connection, and a `Builder` for the block at hand. The HPACK layer is a parameter
(`HpackLayer`), so what is proved of decoding holds whatever layer decodes the blocks;
`Hpack.decodeBlock`, over the dynamic table of RFC 7541, is the one run. Decoding a block goes in
three stages.

1. The layer decodes the block into name and value octet strings. If that fails, the builder is
   reset and the block fails with a fatal compression error; what the block did to the layer's
   state stays.
2. Each pair is emitted, in order: as a decoded field when both are UTF-8, else as an
   undecodable one. A pair that does not fit the size bound resets the builder and fails the
   block at once, fatally.
3. The block is built; a violation fails it, not fatally.

A `:status` of a code the static table holds, and a `:scheme` of exactly `http` or `https`, are
emitted with the value already read; the builder reads the same value from the text, so this
changes nothing but the work done.
-/

namespace Http2Headers

/-- The status codes the HPACK static table holds. -/
def tableStatuses : List UInt16 := [200, 204, 206, 304, 400, 404, 500]

/-- The value a field's text is known to have without reading it as the builder would: a status
the static table holds, or the scheme `http` or `https` written exactly. -/
def knownValue? (name value : String) : Option Field.Resolved :=
  match Field.Kind.recognize name with
  | .status =>
    match Text.readU16? value with
    | some code => if code ∈ tableStatuses then some (.status code) else none
    | none => none
  | .scheme =>
    if value = "http" then some (.scheme .http)
    else if value = "https" then some (.scheme .https)
    else none
  | _ => none

/-- The field a decoded pair makes, or `none` if the name or value is not UTF-8. -/
def fieldOfPair? (name value : List UInt8) : Option Field :=
  match Text.Utf8.decode? name, Text.Utf8.decode? value with
  | some name, some value => some { Field.new name value with resolved := knownValue? name value }
  | _, _ => none

/-- Emits a decoded pair: the builder after it, and whether it fitted. -/
def Builder.emitPair (b : Builder) (e : Hpack.Entry) : Builder × Except SessionError Unit :=
  match fieldOfPair? e.name e.value with
  | some f => b.emit f
  | none => b.emitUndecodable e.name e.value

/-- Emits every pair in order, stopping at the first that does not fit. -/
def Builder.emitPairs (b : Builder) : List Hpack.Entry → Builder × Except SessionError Unit
  | [] => (b, .ok ())
  | e :: es =>
    match b.emitPair e with
    | (b', .ok ()) => b'.emitPairs es
    | (b', .error err) => (b', .error err)

/-- What decoding one block comes to: the block's metadata, the failure of the block, or
`abandoned` when a size update's integer could not be read and decoding was given up. -/
inductive Outcome where
  | decoded (m : Metadata)
  | failed (f : Failure)
  | abandoned
deriving DecidableEq, Repr

/-- An HPACK layer over connection state `σ`: from the state and a header block, the state after
the block, and the block's name and value octets in order or why decoding stopped.
`Hpack.decodeBlock`, over the dynamic table, is the one run here. -/
abbrev HpackLayer (σ : Type) : Type :=
  σ → List UInt8 → σ × Except Hpack.Halt (List Hpack.Entry)

/-- One direction of a connection: the state of its HPACK layer, and the builder of the block at
hand. -/
structure Decoder (σ : Type) where
  table : σ
  builder : Builder
deriving DecidableEq, Repr

namespace Decoder

variable {σ : Type}

/-- A decoder with an empty dynamic table and the configured size bound. -/
def ofConfig (c : Config) : Decoder Hpack.Table :=
  { table := {}, builder := Builder.new c.maxHeaderListSize }

/-- The size bound. -/
def maxSize (d : Decoder σ) : Nat :=
  d.builder.maxSize

/-- The running size of the block at hand. -/
def size (d : Decoder σ) : Nat :=
  d.builder.size

/-- Decodes one header block through the HPACK layer `hpack`: the decoder for the next block, and
the outcome. -/
def decode (hpack : HpackLayer σ) (d : Decoder σ) (block : List UInt8) : Decoder σ × Outcome :=
  let (table, pairs) := hpack d.table block
  match pairs with
  | .error .abandoned => ({ d with table }, .abandoned)
  | .error (.error e) => ({ table, builder := d.builder.reset }, .failed (.session (.compression e)))
  | .ok pairs =>
    match d.builder.emitPairs pairs with
    | (b, .error e) => ({ table, builder := b.reset }, .failed (.session e))
    | (b, .ok ()) =>
      match b.build with
      | (b', .ok m) => ({ table, builder := b' }, .decoded m)
      | (b', .error e) => ({ table, builder := b' }, .failed (.stream e))

/-- The outcomes of decoding blocks in order, each with the running size after it. -/
def decodeAll (hpack : HpackLayer σ) (d : Decoder σ) : List (List UInt8) → List (Outcome × Nat)
  | [] => []
  | block :: blocks =>
    let (d', outcome) := d.decode hpack block
    (outcome, d'.size) :: d'.decodeAll hpack blocks

end Decoder

end Http2Headers
