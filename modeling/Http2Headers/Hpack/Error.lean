/-!
# HPACK decoding errors

The ways a header block can fail to decode (RFC 7541): an index outside both tables, an integer
or string that runs past the block or uses too many octets, a Huffman string with a bad end, or
a dynamic table size update as the block's last representation. Each has a fixed name, which is
how a compression error describes it.
-/

namespace Http2Headers.Hpack

/-- Why an integer could not be read: more than five octets, the prefix octet included, or the
block ended before the integer did. -/
inductive IntegerError where
  | tooManyOctets
  | notEnoughOctets
deriving DecidableEq, Repr

/-- Why a Huffman-coded string could not be read: more than seven bits, or bits not all ones, were
left after the last symbol, or the end-of-string symbol appeared in the data. -/
inductive HuffmanError where
  | paddingTooLarge
  | invalidPadding
  | eosInString
deriving DecidableEq, Repr

/-- Why a string could not be read: its length runs past the end of the block, or its Huffman
code is broken. -/
inductive StringError where
  | notEnoughOctets
  | huffman (e : HuffmanError)
deriving DecidableEq, Repr

/-- Why a header block could not be decoded: an index of zero or past the static and dynamic
tables, a broken integer, a broken string (whose length is an integer too, failing as `integer`),
or a dynamic table size update at the end of the block. -/
inductive DecodeError where
  | indexOutOfBounds
  | integer (e : IntegerError)
  | string (e : StringError)
  | sizeUpdateAtEnd
deriving DecidableEq, Repr

/-- The name of an integer error. -/
def IntegerError.describe : IntegerError → String
  | .tooManyOctets => "TooManyOctets"
  | .notEnoughOctets => "NotEnoughOctets"

/-- The name of a Huffman error. -/
def HuffmanError.describe : HuffmanError → String
  | .paddingTooLarge => "PaddingTooLarge"
  | .invalidPadding => "InvalidPadding"
  | .eosInString => "EOSInString"

/-- The name of a string error. -/
def StringError.describe : StringError → String
  | .notEnoughOctets => "NotEnoughOctets"
  | .huffman e => "HuffmanDecoderError(" ++ e.describe ++ ")"

/-- The name of a decoding error, with the name of its cause in parentheses. -/
def DecodeError.describe : DecodeError → String
  | .indexOutOfBounds => "HeaderIndexOutOfBounds"
  | .integer e => "IntegerDecodingError(" ++ e.describe ++ ")"
  | .string e => "StringDecodingError(" ++ e.describe ++ ")"
  | .sizeUpdateAtEnd => "SizeUpdateAtEnd"

end Http2Headers.Hpack
