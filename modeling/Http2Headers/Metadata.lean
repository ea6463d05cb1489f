import Http2Headers.FieldSection
import Http2Headers.Scheme
import Http2Headers.Authority

/-!
# Metadata

What one complete header block means. A block with a request pseudo header (`:method`,
`:scheme`, `:authority` or `:path`, or an authority taken from `host`) is a request; else a block
with `:status` is a response; any other block, such as trailers, is generic. Every kind keeps its
regular fields and the content length, if one was given.
-/

namespace Http2Headers

/-- The protocol version every block is read under. -/
inductive HttpVersion where
  | http2
deriving DecidableEq, Repr

/-- How the version is written. -/
def HttpVersion.text : HttpVersion → String
  | .http2 => "HTTP/2.0"

/-- The metadata of a request: its pseudo headers (the authority from `:authority`, or else from
`host`), its regular fields, and the last valid `content-length`. -/
structure Request where
  method : Option String
  scheme : Option Scheme
  authority : Option Authority
  path : Option String
  fields : FieldSection
  contentLength : Option Int64
deriving DecidableEq, Repr

/-- The metadata of a response. -/
structure Response where
  status : UInt16
  fields : FieldSection
  contentLength : Option Int64
deriving DecidableEq, Repr

/-- The metadata of a block without pseudo headers, such as trailers. -/
structure Generic where
  fields : FieldSection
  contentLength : Option Int64
deriving DecidableEq, Repr

/-- The metadata of one header block. -/
inductive Metadata where
  | request (r : Request)
  | response (r : Response)
  | generic (g : Generic)
deriving DecidableEq, Repr

namespace Metadata

/-- The regular fields. -/
def fields : Metadata → FieldSection
  | .request r => r.fields
  | .response r => r.fields
  | .generic g => g.fields

/-- The content length. -/
def contentLength : Metadata → Option Int64
  | .request r => r.contentLength
  | .response r => r.contentLength
  | .generic g => g.contentLength

/-- The protocol version. -/
def version (_ : Metadata) : HttpVersion :=
  .http2

/-- Whether this is a request. -/
def isRequest : Metadata → Bool
  | .request _ => true
  | _ => false

/-- Whether this is a response. -/
def isResponse : Metadata → Bool
  | .response _ => true
  | _ => false

end Metadata

end Http2Headers
