import Http2Headers.Block
import Http2Headers.Budget
import Http2Headers.Text.Utf8

/-!
# Building metadata from header blocks

A `Builder` reads one header block at a time: fields are emitted one by one, then `build` says
what the block means and starts the next one afresh. Only the size bound carries over from block
to block.

Every field is first admitted against the size bound: the running size plus the field's size
(saturating) must not pass `maxSize`. A field that would pass it fails at once with a
`headerTooLarge` session error and leaves the builder exactly as it was, so the error is not
recorded in the block. An admitted field adds its size and then has its effect (`Block.accept`).
Any other problem is only recorded, and reported by `build`.

A field whose name or value is not UTF-8 is admitted by the length of its raw octets and then
recorded as an `invalidEncoding` violation; it is never kept.
-/

namespace Http2Headers

/-- The builder of one direction of a connection: its size bound and the block being read. -/
structure Builder where
  maxSize : Nat
  block : Block := {}
deriving DecidableEq, Repr

namespace Builder

/-- A builder with the size bound and an empty block. -/
def new (maxSize : Nat) : Builder :=
  { maxSize }

/-- The running size of the block being read. -/
def size (b : Builder) : Nat :=
  b.block.size

/-- The running size after charging `amount` more octets, or why they do not fit. -/
def charge (b : Builder) (amount : Nat) : Except SessionError Nat :=
  let size := addSat b.size amount
  if size > b.maxSize then .error (.headerTooLarge size b.maxSize) else .ok size

/-- Whether a string of `length` encoded octets, Huffman-coded or not, would still fit. Nothing
is admitted. -/
def checkSize (b : Builder) (length : Nat) (huffman : Bool) : Except SessionError Unit :=
  (b.charge (decodedBound length huffman)).map fun _ => ()

/-- Charges `amount` octets to the block. A charge that does not fit is refused before the
running size is stored. -/
def account (b : Builder) (amount : Nat) : Builder × Except SessionError Unit :=
  match b.charge amount with
  | .ok size => ({ b with block := { b.block with size } }, .ok ())
  | .error e => (b, .error e)

/-- Charges `amount` octets, then lets `effect` act on the block; a refused charge stops before
the effect, and the builder is left as the charge left it. -/
def chargeThen (b : Builder) (amount : Nat) (effect : Block → Block) :
    Builder × Except SessionError Unit :=
  match b.account amount with
  | (b, .ok ()) => ({ b with block := effect b.block }, .ok ())
  | (b, .error e) => (b, .error e)

/-- Emits one decoded field: the builder after it, and whether it fitted. -/
def emit (b : Builder) (f : Field) : Builder × Except SessionError Unit :=
  b.chargeThen f.size (·.accept f)

/-- Emits a field whose name or value is not UTF-8, counted by its raw octets. -/
def emitUndecodable (b : Builder) (name value : List UInt8) :
    Builder × Except SessionError Unit :=
  b.chargeThen (name.length + value.length + fieldOverhead)
    (·.record (.invalidEncoding (Text.Utf8.decodeLossy name)))

/-- The builder with the block dropped unread. -/
def reset (b : Builder) : Builder :=
  { b with block := {} }

/-- What the block means, and the builder ready for the next block, whatever the outcome. -/
def build (b : Builder) : Builder × Except StreamError Metadata :=
  (b.reset, b.block.finish)

@[simp] theorem maxSize_reset (b : Builder) : b.reset.maxSize = b.maxSize := rfl

@[simp] theorem block_reset (b : Builder) : b.reset.block = {} := rfl

@[simp] theorem size_reset (b : Builder) : b.reset.size = 0 := rfl

@[simp] theorem build_fst (b : Builder) : b.build.1 = b.reset := rfl

@[simp] theorem build_snd (b : Builder) : b.build.2 = b.block.finish := rfl

/-- One thing done to a builder: emit a decoded field, emit a field whose name or value is not
UTF-8, ask whether a string of `length` encoded octets would fit, finish the block, or drop it. -/
inductive Step where
  | emit (f : Field)
  | emitUndecodable (name value : List UInt8)
  | checkSize (length : Nat) (huffman : Bool)
  | build
  | reset
deriving DecidableEq, Repr

/-- What a step answers: nothing or the metadata of a built block, or the failure. -/
abbrev Reply := Except Failure (Option Metadata)

/-- The answer of an operation that only reports whether it fitted. -/
def settle : Builder × Except SessionError Unit → Builder × Reply
  | (b, .ok ()) => (b, .ok none)
  | (b, .error e) => (b, .error (.session e))

/-- The new builder and the answer of a step. -/
def step (b : Builder) : Step → Builder × Reply
  | .emit f => settle (b.emit f)
  | .emitUndecodable name value => settle (b.emitUndecodable name value)
  | .checkSize length huffman => settle (b, b.checkSize length huffman)
  | .build =>
    match b.build with
    | (b', .ok m) => (b', .ok (some m))
    | (b', .error e) => (b', .error (.stream e))
  | .reset => (b.reset, .ok none)

/-- The answers of a run of steps, each with the running size after it. -/
def run (b : Builder) : List Step → List (Reply × Nat)
  | [] => []
  | s :: ss =>
    let (b', r) := b.step s
    (r, b'.size) :: run b' ss

example : ((new 1000).emit (.new "foo" "bar")).1.size = 38 := by decide

end Builder

end Http2Headers
