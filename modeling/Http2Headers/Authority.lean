import Http2Headers.Text.Numeral

/-!
# Authorities

The host and optional port named by `:authority` or `host`. Reading follows the shapes an
authority takes:

* `[v6]` or `[v6]:port` — a bracketed IPv6 literal, which keeps its brackets;
* `host` — no colon;
* `host:port` — exactly one colon;
* two or more colons and no bracket — a bare IPv6 literal, wrapped in brackets, with no port.

A port is a nonempty run of ASCII digits worth at most 65535; leading zeros are allowed.
-/

namespace Http2Headers

/-- A host with an optional port; an IPv6 literal keeps its brackets in the host. -/
structure Authority where
  host : String
  port : Option UInt16
deriving DecidableEq, Repr

namespace Authority

/-- The port a text names: ASCII digits only, at least one, worth at most 65535. -/
def readPort? (cs : List Char) : Option UInt16 :=
  ((Text.digitsValue? cs).filter (· ≤ 65535)).map UInt16.ofNat

/-- What follows the closing bracket of an IPv6 literal: nothing, or a colon and a port. -/
def afterBracket? (host : String) : List Char → Option Authority
  | [] => some ⟨host, none⟩
  | ':' :: port => (readPort? port).map fun p => ⟨host, some p⟩
  | _ => none

/-- Reads an authority; `none` for an unterminated IPv6 literal, text after its bracket that is no
port, or a malformed port. -/
def parse? (s : String) : Option Authority :=
  match s.toList with
  | '[' :: rest =>
    -- the host runs up to and including the first closing bracket
    match rest.span (· ≠ ']') with
    | (inside, ']' :: after) => afterBracket? (String.ofList ('[' :: inside ++ [']'])) after
    | _ => none
  | cs =>
    match cs.span (· ≠ ':') with
    | (_, []) => some ⟨s, none⟩
    | (host, _ :: port) =>
      if ':' ∈ port then some ⟨"[" ++ s ++ "]", none⟩
      else (readPort? port).map fun p => ⟨String.ofList host, some p⟩

/-- The text of an authority: the host, then `:` and the port if there is one. -/
def render (a : Authority) : String :=
  match a.port with
  | some p => a.host ++ ":" ++ toString p.toNat
  | none => a.host

example : parse? "example.com:443" = some ⟨"example.com", some 443⟩ := by decide
example : parse? "::1" = some ⟨"[::1]", none⟩ := by decide
example : parse? "[::1]x" = none := by decide

end Authority

end Http2Headers
