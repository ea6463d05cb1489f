import Http2Headers.Text.Ascii

/-!
# Schemes

The value of `:scheme`. The four schemes HTTP/2 knows are recognised ignoring ASCII case; any
other text is kept verbatim, neither trimmed nor folded.
-/

namespace Http2Headers

/-- A URI scheme. -/
inductive Scheme where
  | http
  | https
  | ws
  | wss
  | other (text : String)
deriving DecidableEq, Repr

namespace Scheme

/-- The known schemes with their lower-case names, in the order reading tries them. -/
def known : List (String × Scheme) :=
  [("http", http), ("https", https), ("ws", ws), ("wss", wss)]

/-- The scheme a text names: a known one if the text equals its name ignoring ASCII case,
else the text itself. -/
def parse (s : String) : Scheme :=
  match known.find? fun entry => Text.eqIgnoreAsciiCase entry.1 s with
  | some entry => entry.2
  | none => other s

/-- The text of a scheme: the lower-case name of a known one, or the text kept. -/
def text : Scheme → String
  | http => "http"
  | https => "https"
  | ws => "ws"
  | wss => "wss"
  | other s => s

example : parse "HTTP" = http := by decide
example : parse "coap" = other "coap" := by decide

end Scheme

end Http2Headers
