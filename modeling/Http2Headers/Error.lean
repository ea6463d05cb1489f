import Http2Headers.Field.Kind
import Http2Headers.Hpack.Error
import Http2Headers.Text.Quoted

/-!
# Errors

Two classes of error come out of a header block.

* A `Violation` breaks the rules for one block (a pseudo header after a regular field, a
  forbidden field, a value that does not read). The block is still consumed to its end, so the
  connection's compression state stays in step, and it then fails as a `StreamError`: the first
  violation, and every later one in arrival order.
* A `SessionError` means the compression state can no longer be trusted: the block was too
  large, or it did not decode. The connection must go.

A `Failure` is either; a session error is fatal and is answered with `COMPRESSION_ERROR` (9),
a stream error with `PROTOCOL_ERROR` (1).
-/

namespace Http2Headers

/-- One broken rule of a header block: a pseudo header after a regular field or given twice, a
name starting with `:` that is no pseudo header, a `te` that does not say `trailers`, a
`connection` field, request and response pseudo headers together, a name or value that is not
UTF-8 (the name given with bad octets replaced), or a value that does not read as what its header
needs. -/
inductive Violation where
  | pseudoHeaderAfterFields (kind : Field.Kind)
  | duplicatePseudoHeader (kind : Field.Kind)
  | unknownPseudoHeader (name : String)
  | unsupportedTe (value : String)
  | connectionSpecific (name : String)
  | mixedRequestResponse
  | invalidEncoding (name : String)
  | invalidValue (kind : Field.Kind) (value : String)
deriving DecidableEq, Repr

/-- What a violation says. -/
def Violation.message : Violation → String
  | .pseudoHeaderAfterFields k => "Pseudo header " ++ k.name ++ " after fields"
  | .duplicatePseudoHeader k => "Duplicate pseudo header " ++ k.name
  | .unknownPseudoHeader name => "Unknown pseudo header " ++ name
  | .unsupportedTe value => "Unsupported TE value " ++ value
  | .connectionSpecific name => "Connection specific field " ++ name
  | .mixedRequestResponse => "Request and Response headers"
  | .invalidEncoding name => "Header " ++ name ++ " is not valid UTF-8"
  | .invalidValue k value => "Invalid " ++ k.name ++ " value " ++ Text.quote value

/-- The violations of one failed block: the first, and those after it in arrival order. -/
structure StreamError where
  primary : Violation
  suppressed : List Violation := []
deriving DecidableEq, Repr

namespace StreamError

/-- The error of a single violation. -/
def single (v : Violation) : StreamError :=
  { primary := v }

/-- The error with one more, later violation. -/
def suppress (e : StreamError) (v : Violation) : StreamError :=
  { e with suppressed := e.suppressed ++ [v] }

/-- Every violation, the first first. -/
def violations (e : StreamError) : List Violation :=
  e.primary :: e.suppressed

@[simp] theorem violations_single (v : Violation) : (single v).violations = [v] := rfl

@[simp] theorem violations_suppress (e : StreamError) (v : Violation) :
    (e.suppress v).violations = e.violations ++ [v] := by
  simp [suppress, violations]

/-- What the error says: the first violation's message, then `; ` and each later one's. -/
def message (e : StreamError) : String :=
  e.primary.message ++ String.join (e.suppressed.map fun v => "; " ++ v.message)

end StreamError

/-- An error after which the connection's compression state cannot be trusted: the block's fields
would add up to `size`, more than `maxSize`, or the block did not decode. -/
inductive SessionError where
  | headerTooLarge (size maxSize : Nat)
  | compression (e : Hpack.DecodeError)
deriving DecidableEq, Repr

/-- What a session error says. -/
def SessionError.message : SessionError → String
  | .headerTooLarge size maxSize => "Header size " ++ toString size ++ " > " ++ toString maxSize
  | .compression e => "HPACK decode error: " ++ e.describe

/-- Either class of error: a session error ends the connection, a stream error only the block. -/
inductive Failure where
  | session (e : SessionError)
  | stream (e : StreamError)
deriving DecidableEq, Repr

namespace Failure

/-- Whether the connection must be closed. -/
def isFatal : Failure → Bool
  | .session _ => true
  | .stream _ => false

/-- The HTTP/2 error code: `COMPRESSION_ERROR` for a fatal failure, else `PROTOCOL_ERROR`. -/
def errorCode : Failure → Nat
  | .session _ => 0x9
  | .stream _ => 0x1

/-- What the failure says. -/
def message : Failure → String
  | .session e => e.message
  | .stream e => e.message

end Failure

example :
    ((StreamError.single (.pseudoHeaderAfterFields .method)).suppress
      (.connectionSpecific "connection")).message
      = "Pseudo header :method after fields; Connection specific field connection" := by decide

end Http2Headers
