import Http2Headers.Text.Printable
import Http2Headers.Text.GraphemeExtend

/-!
# Quoted values

A rejected value is shown in double quotes with every character that would not read back
unambiguously written as an escape:

* `\0`, `\t`, `\r`, `\n`, `\\` and `\"` for NUL, tab, carriage return, line feed, backslash and
  the double quote; the single quote stays as it is;
* `\u` and the code point in lower-case hexadecimal between braces, for a grapheme extender (it
  would merge with what stands before it) and for a character that is not printable;
* the character itself otherwise.
-/

namespace Http2Headers.Text

/-- The code point of a character as lower-case hexadecimal digits, without leading zeros. -/
def hexCodePoint (c : Char) : String :=
  String.ofList (Nat.toDigits 16 c.toNat)

/-- The escape that names a character by its code point. -/
def unicodeEscape (c : Char) : String :=
  "\\u\x7b" ++ hexCodePoint c ++ "\x7d"

/-- How one character of a quoted value is written. -/
def escapeChar (c : Char) : String :=
  match c with
  | '\x00' => "\\0"
  | '\t' => "\\t"
  | '\r' => "\\r"
  | '\n' => "\\n"
  | '\\' => "\\\\"
  | '"' => "\\\""
  | c =>
    if isGraphemeExtend c then unicodeEscape c
    else if isPrintable c then c.toString
    else unicodeEscape c

/-- A value in double quotes, its characters escaped one by one. -/
def quote (s : String) : String :=
  "\"" ++ String.join (s.toList.map escapeChar) ++ "\""

example : quote "a\"b'c" = "\"a\\\"b'c\"" := by decide +kernel
example : quote "e\u0301\x00" = "\"e\\u\x7b301\x7d\\0\"" := by decide +kernel

end Http2Headers.Text
