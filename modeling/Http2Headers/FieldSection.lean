import Http2Headers.Text.Ascii

/-!
# Field sections

The regular fields of a header block, as name and value pairs in arrival order. Lookups compare
names ignoring ASCII case, so `Set-Cookie` finds `set-cookie`, while `É` does not find `é`.
-/

namespace Http2Headers

/-- One regular field: the name as it arrived, and its text value, empty if it had none. -/
structure FieldLine where
  name : String
  value : String
deriving DecidableEq, Repr

/-- The regular fields of a block, in arrival order. -/
structure FieldSection where
  lines : List FieldLine := []
deriving DecidableEq, Repr

namespace FieldSection

/-- The section with no field. -/
def empty : FieldSection := {}

/-- The section with one more field at its end. -/
def push (s : FieldSection) (line : FieldLine) : FieldSection :=
  ⟨s.lines ++ [line]⟩

/-- The number of fields. -/
def length (s : FieldSection) : Nat :=
  s.lines.length

/-- Whether there is no field. -/
def isEmpty (s : FieldSection) : Bool :=
  s.lines.isEmpty

/-- Whether a field carries the name, ignoring ASCII case. -/
def named (name : String) (line : FieldLine) : Bool :=
  Text.eqIgnoreAsciiCase line.name name

/-- The value of the first field with the name. -/
def get? (s : FieldSection) (name : String) : Option String :=
  (s.lines.find? (named name)).map (·.value)

/-- The values of every field with the name, in arrival order. -/
def getAll (s : FieldSection) (name : String) : List String :=
  (s.lines.filter (named name)).map (·.value)

/-- Whether some field has the name. -/
def contains (s : FieldSection) (name : String) : Bool :=
  (s.get? name).isSome

@[simp] theorem lines_push (s : FieldSection) (line : FieldLine) :
    (s.push line).lines = s.lines ++ [line] := rfl

@[simp] theorem lines_empty : empty.lines = [] := rfl

@[simp] theorem length_push (s : FieldSection) (line : FieldLine) :
    (s.push line).length = s.length + 1 := by
  simp [push, length]

example :
    (empty.push ⟨"set-cookie", "a=1"⟩ |>.push ⟨"Set-Cookie", "b=2"⟩).getAll "SET-COOKIE"
      = ["a=1", "b=2"] := by decide

end FieldSection

end Http2Headers
