/-
# Texts in descriptions

The description of a value shows its texts in double quotes, with everything that a reader could
not see or could misread written as an escape.
-/

import ContentQuery.Text.Printable

namespace ContentQuery.Text

/-- A character inside a description: quotes and backslashes have a backslash before them, the
common controls have short escapes, and what is not printable is its code point in hexadecimal. -/
def inspectChar (c : Char) : List Char :=
  if c = '"' ∨ c = '\\' then ['\\', c]
  else if c = '\n' then ['\\', 'n']
  else if c = '\r' then ['\\', 'r']
  else if c = '\t' then ['\\', 't']
  else if c = '\x00' then ['\\', '0']
  else if isPrintable c then [c]
  else ['\\', 'u', '\x7b'] ++ Nat.toDigits 16 c.toNat ++ ['\x7d']

/-- A text inside a description. -/
def inspect (text : String) : String :=
  String.ofList ('"' :: text.toList.flatMap inspectChar ++ ['"'])

end ContentQuery.Text
