import Http2Headers.Field
import Http2Headers.Error
import Http2Headers.Metadata

/-!
# One header block

What is known about the block being read, field by field. The five pseudo headers each have a
slot that may be set once, and only before the first regular field. Regular fields are kept in
order, except those that break a rule. A broken rule does not stop the block: it is recorded, the
first one as the block's error and later ones behind it, and reading goes on.

`accept` is the effect of one field, `finish` what the block means at its end:

* a recorded error fails it;
* request and response pseudo headers together fail it;
* a request slot (method, scheme, authority, path) makes it a request, whatever the status;
* else a status makes it a response;
* else it is generic.
-/

namespace Http2Headers

/-- The state of the header block being read: the sum of the sizes of the fields admitted so far,
the pseudo header slots (the authority may come from `host`), the last valid `content-length`, the
regular fields kept, whether a request pseudo header and whether a status was set, and the
violations so far. -/
structure Block where
  size : Nat := 0
  status : Option UInt16 := none
  method : Option String := none
  scheme : Option Scheme := none
  authority : Option Authority := none
  path : Option String := none
  contentLength : Option Int64 := none
  fields : FieldSection := {}
  request : Bool := false
  response : Bool := false
  error : Option StreamError := none
deriving DecidableEq, Repr

namespace Block

/-- Whether the slot of a pseudo header is set; `false` for the other kinds. -/
def hasPseudo (b : Block) : Field.Kind → Bool
  | .status => b.status.isSome
  | .method => b.method.isSome
  | .scheme => b.scheme.isSome
  | .authority => b.authority.isSome
  | .path => b.path.isSome
  | _ => false

/-- The block with one more violation: the first becomes its error, later ones follow it. -/
def record (b : Block) (v : Violation) : Block :=
  { b with
    error := some (match b.error with
      | none => StreamError.single v
      | some e => e.suppress v) }

/-- The violation a pseudo header would commit now: coming after a regular field, or coming
again. -/
def pseudoConflict? (b : Block) (k : Field.Kind) : Option Violation :=
  if !b.fields.isEmpty then some (.pseudoHeaderAfterFields k)
  else if b.hasPseudo k then some (.duplicatePseudoHeader k)
  else none

/-- Fills the slot of pseudo header `k` with `fill`, or records why it may not be filled. -/
def claimPseudo (b : Block) (k : Field.Kind) (fill : Block → Block) : Block :=
  match b.pseudoConflict? k with
  | some v => b.record v
  | none => fill b

/-- The block with the field kept among the regular fields. -/
def keep (b : Block) (f : Field) : Block :=
  { b with fields := b.fields.push f.toLine }

/-- The block with the field's value recorded as invalid for header `k`. -/
def invalid (b : Block) (k : Field.Kind) (f : Field) : Block :=
  b.record (.invalidValue k f.valueText)

/-- The effect of one admitted field on the block, its size aside. -/
def accept (b : Block) (f : Field) : Block :=
  match f.kind with
  | .status =>
    b.claimPseudo .status fun b =>
      match f.statusValue? with
      | some code => { b with status := some code, response := true }
      | none => b.invalid .status f
  | .method =>
    b.claimPseudo .method fun b => { b with method := some f.valueText, request := true }
  | .scheme =>
    b.claimPseudo .scheme fun b => { b with scheme := some f.schemeValue, request := true }
  | .authority =>
    b.claimPseudo .authority fun b =>
      match f.authorityValue? with
      | some a => { b with authority := some a, request := true }
      | none => b.invalid .authority f
  | .path =>
    b.claimPseudo .path fun b => { b with path := some f.valueText, request := true }
  | .host =>
    -- `:authority` wins over `host`; `host` is kept as a regular field either way
    let b :=
      if b.authority.isNone && f.value.isSome then
        match f.authorityValue? with
        | some a => { b with authority := some a }
        | none => b.invalid .host f
      else b
    b.keep f
  | .contentLength =>
    match f.contentLengthValue? with
    | some n => { b with contentLength := some n }.keep f
    | none => b.invalid .contentLength f
  | .te =>
    if Text.eqIgnoreAsciiCase f.valueText "trailers" then b.keep f
    else b.record (.unsupportedTe f.valueText)
  | .connection => b.record (.connectionSpecific f.name)
  | .other =>
    if f.name.toList.head? = some ':' then b.record (.unknownPseudoHeader f.name)
    else b.keep f

/-- Whether a request slot is set. -/
def hasRequestSlot (b : Block) : Bool :=
  b.method.isSome || b.path.isSome || b.authority.isSome || b.scheme.isSome

/-- What the block means at its end. -/
def finish (b : Block) : Except StreamError Metadata :=
  match b.error with
  | some e => .error e
  | none =>
    if b.request && b.response then .error (StreamError.single .mixedRequestResponse)
    else if b.hasRequestSlot then
      .ok (.request ⟨b.method, b.scheme, b.authority, b.path, b.fields, b.contentLength⟩)
    else
      match b.status with
      | some code => .ok (.response ⟨code, b.fields, b.contentLength⟩)
      | none => .ok (.generic ⟨b.fields, b.contentLength⟩)

end Block

end Http2Headers
