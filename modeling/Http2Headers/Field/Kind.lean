import Http2Headers.Text.Ascii

/-!
# Header kinds

A header name is one of nine known kinds or `other`. The five pseudo headers carry the request
line and the status; `host`, `content-length`, `te` and `connection` are regular fields that get
special handling. Recognition ignores ASCII case and nothing else.
-/

namespace Http2Headers

/-- The kind of a header name: the five pseudo headers, `host` (a regular field that may supply
the authority), `content-length`, `te` (which may only say `trailers`), `connection` (forbidden in
HTTP/2), and any other name. -/
inductive Field.Kind where
  | status
  | method
  | scheme
  | authority
  | path
  | host
  | contentLength
  | te
  | connection
  | other
deriving DecidableEq, Repr

namespace Field.Kind

/-- The name of a known kind as it is written on the wire; `<other>` for the rest. -/
def name : Kind → String
  | status => ":status"
  | method => ":method"
  | scheme => ":scheme"
  | authority => ":authority"
  | path => ":path"
  | host => "host"
  | contentLength => "content-length"
  | te => "te"
  | connection => "connection"
  | other => "<other>"

/-- The known kinds, in the order recognition tries them. -/
def known : List Kind :=
  [status, method, scheme, authority, path, host, contentLength, te, connection]

/-- The kind of a header name: the first known kind whose name equals it ignoring ASCII case,
else `other`. -/
def recognize (s : String) : Kind :=
  (known.find? fun k => Text.eqIgnoreAsciiCase k.name s).getD other

/-- Whether the kind is one of the five pseudo headers. -/
def isPseudo : Kind → Bool
  | status | method | scheme | authority | path => true
  | _ => false

example : recognize "Content-Length" = contentLength := by decide
example : recognize ":protocol" = other := by decide

end Field.Kind

end Http2Headers
