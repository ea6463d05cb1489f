import Http2Headers.Hpack.Error

/-!
# HPACK tables

Indexed names and fields refer to one address space (RFC 7541, section 2.3.3): indices 1 to 61
are the static table of appendix A, and 62 onwards the dynamic table, newest entry first. Index
0 and indices past both tables are `indexOutOfBounds`.

The dynamic table starts with a bound of 4096 octets, an entry counting its name, its value and
32. Adding an entry puts it first and then evicts the oldest entries until the table fits its
bound; an entry larger than the bound thus empties the table. A size update sets the bound, to
any value, and evicts the same way. Since every entry counts at least 32, evicting the oldest
entries until the table fits keeps exactly the longest run of newest entries that fits, which is
how `fit` states it.
-/

namespace Http2Headers.Hpack

/-- A table entry: a name and a value, as octets. -/
structure Entry where
  name : List UInt8
  value : List UInt8
deriving DecidableEq, Repr

/-- What an entry counts against the dynamic table's bound. -/
def Entry.size (e : Entry) : Nat :=
  e.name.length + e.value.length + 32

/-- The octets of an ASCII text. -/
def asciiOctets (s : String) : List UInt8 :=
  s.toList.map fun c => UInt8.ofNat c.toNat

/-- The entry of a name and value given as ASCII text. -/
def Entry.ofText (name value : String) : Entry :=
  ⟨asciiOctets name, asciiOctets value⟩

/-- The static table, index 1 first. -/
def staticTable : List Entry :=
  [.ofText ":authority" "", .ofText ":method" "GET", .ofText ":method" "POST",
   .ofText ":path" "/", .ofText ":path" "/index.html", .ofText ":scheme" "http",
   .ofText ":scheme" "https", .ofText ":status" "200", .ofText ":status" "204",
   .ofText ":status" "206", .ofText ":status" "304", .ofText ":status" "400",
   .ofText ":status" "404", .ofText ":status" "500", .ofText "accept-charset" "",
   .ofText "accept-encoding" "gzip, deflate", .ofText "accept-language" "",
   .ofText "accept-ranges" "", .ofText "accept" "", .ofText "access-control-allow-origin" "",
   .ofText "age" "", .ofText "allow" "", .ofText "authorization" "",
   .ofText "cache-control" "", .ofText "content-disposition" "",
   .ofText "content-encoding" "", .ofText "content-language" "", .ofText "content-length" "",
   .ofText "content-location" "", .ofText "content-range" "", .ofText "content-type" "",
   .ofText "cookie" "", .ofText "date" "", .ofText "etag" "", .ofText "expect" "",
   .ofText "expires" "", .ofText "from" "", .ofText "host" "", .ofText "if-match" "",
   .ofText "if-modified-since" "", .ofText "if-none-match" "", .ofText "if-range" "",
   .ofText "if-unmodified-since" "", .ofText "last-modified" "", .ofText "link" "",
   .ofText "location" "", .ofText "max-forwards" "", .ofText "proxy-authenticate" "",
   .ofText "proxy-authorization" "", .ofText "range" "", .ofText "referer" "",
   .ofText "refresh" "", .ofText "retry-after" "", .ofText "server" "",
   .ofText "set-cookie" "", .ofText "strict-transport-security" "",
   .ofText "transfer-encoding" "", .ofText "user-agent" "", .ofText "vary" "",
   .ofText "via" "", .ofText "www-authenticate" ""]

/-- The newest entries that fit in `budget` octets, up to the first that does not. -/
def fit (budget : Nat) : List Entry → List Entry
  | [] => []
  | e :: es => if e.size ≤ budget then e :: fit (budget - e.size) es else []

/-- The dynamic table: its entries, newest first, and the bound on the sum of their sizes. -/
structure Table where
  entries : List Entry := []
  maxSize : Nat := 4096
deriving DecidableEq, Repr

namespace Table

/-- The sum of the entries' sizes. -/
def size (t : Table) : Nat :=
  t.entries.foldr (fun e n => e.size + n) 0

/-- The table with an entry added, the oldest entries evicted to fit. -/
def insert (t : Table) (e : Entry) : Table :=
  { t with entries := fit t.maxSize (e :: t.entries) }

/-- The table with a new bound, the oldest entries evicted to fit. -/
def resize (t : Table) (maxSize : Nat) : Table :=
  { entries := fit maxSize t.entries, maxSize }

/-- The entry at an index of the static and dynamic tables together. -/
def lookup (t : Table) (index : Nat) : Except DecodeError Entry :=
  match index with
  | 0 => .error .indexOutOfBounds
  | i + 1 =>
    match (staticTable ++ t.entries)[i]? with
    | some e => .ok e
    | none => .error .indexOutOfBounds

end Table

example : staticTable.length = 61 := by decide

end Http2Headers.Hpack
