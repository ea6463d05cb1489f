import Http2Headers.Field.Kind
import Http2Headers.Scheme
import Http2Headers.Authority
import Http2Headers.FieldSection
import Http2Headers.Text.WhiteSpace

/-!
# Decoded fields

A field as a header block hands it over: its name, its value if it has one, its kind, and
possibly a value already read by whoever decoded it (a `:status` of `200` taken from a table, for
instance). When a read value is present the block uses it instead of reading the text; the two
need not agree.

A field counts against the block's budget by the UTF-8 length of its name and value plus 32
octets of overhead (RFC 7541, section 4.1).
-/

namespace Http2Headers

/-- A value read ahead of time from a field's text. -/
inductive Field.Resolved where
  | status (code : UInt16)
  | scheme (s : Scheme)
  | authority (a : Authority)
  | contentLength (n : Int64)
deriving DecidableEq, Repr

/-- A decoded header field: the name as it arrived, the value (`none` for a field with no text
value), what the name means (normally `Field.Kind.recognize name`), and a value read ahead of
time, if any. -/
structure Field where
  name : String
  value : Option String
  kind : Field.Kind
  resolved : Option Field.Resolved := none
deriving DecidableEq, Repr

/-- Octets counted per field beyond its name and value. -/
def fieldOverhead : Nat := 32

/-- The number of octets the UTF-8 form of a text takes. -/
def utf8Length (s : String) : Nat :=
  s.toList.foldr (fun c n => c.utf8Size + n) 0

namespace Field

/-- A field with a name and a value, its kind recognised from the name. -/
def new (name value : String) : Field :=
  { name, value := some value, kind := Kind.recognize name }

/-- A field with a name and no value, its kind recognised from the name. -/
def nameOnly (name : String) : Field :=
  { name, value := none, kind := Kind.recognize name }

/-- The value as text, empty when there is none. -/
def valueText (f : Field) : String :=
  f.value.getD ""

/-- What the field counts against the budget. -/
def size (f : Field) : Nat :=
  utf8Length f.name + utf8Length f.valueText + fieldOverhead

/-- The field as it is kept among the regular fields. -/
def toLine (f : Field) : FieldLine :=
  ⟨f.name, f.valueText⟩

/-- The status code: the one read ahead, else the trimmed text as a 16-bit number. -/
def statusValue? (f : Field) : Option UInt16 :=
  match f.resolved with
  | some (.status code) => some code
  | _ => Text.readU16? (Text.trim f.valueText)

/-- The scheme: the one read ahead, else the text read as a scheme. -/
def schemeValue (f : Field) : Scheme :=
  match f.resolved with
  | some (.scheme s) => s
  | _ => Scheme.parse f.valueText

/-- The authority: the one read ahead, else the value read as an authority; `none` for a
field with no value. -/
def authorityValue? (f : Field) : Option Authority :=
  match f.resolved with
  | some (.authority a) => some a
  | _ => f.value.bind Authority.parse?

/-- The content length: the one read ahead, else the trimmed text as a signed 64-bit number. -/
def contentLengthValue? (f : Field) : Option Int64 :=
  match f.resolved with
  | some (.contentLength n) => some n
  | _ => Text.readI64? (Text.trim f.valueText)

example : (new "foo" "bar").size = 38 := by decide
example : (nameOnly "foo").size = 35 := by decide
example : (new ":status" " 204 ").statusValue? = some 204 := by decide

end Field

end Http2Headers
