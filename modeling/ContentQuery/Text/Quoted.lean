/-
# Terms of the query text

A text stands in the query text as it is unless something in it would end the term there: white
space, a quote, a bracket or a colon, or nothing at all. It then stands in single quotes, and each
single quote in it has a backslash before it. A backslash itself is written as it is.
-/

import ContentQuery.Text.WhiteSpace

namespace ContentQuery.Text

/-- The marks that end a bare term. -/
def termMarks : List Char :=
  ['\x27', '"', '(', ')', '[', ']', '\x7b', '\x7d', ':']

/-- Whether a character cannot stand in a bare term. -/
def endsTerm (c : Char) : Bool := isWhiteSpace c || termMarks.contains c

/-- Puts a backslash before each single quote. -/
def escapeQuotes : List Char → List Char
  | [] => []
  | c :: rest => if c = '\x27' then '\\' :: c :: escapeQuotes rest else c :: escapeQuotes rest

/-- Whether a text needs quotes. -/
def needsQuotes (text : List Char) : Bool := text.isEmpty || text.any endsTerm

/-- A text as a term of the query text. -/
def term (text : String) : String :=
  if needsQuotes text.toList then
    String.ofList ('\x27' :: escapeQuotes text.toList ++ ['\x27'])
  else text

end ContentQuery.Text
