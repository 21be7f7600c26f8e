/-
# Lower case of a text

The lower case of a text is that of its characters, with the two exceptions that need no language:
the capital I with a dot becomes two characters, and a capital sigma at the end of a word becomes
the final small sigma.
-/

import ContentQuery.Text.LowerCase.Cased
import ContentQuery.Text.LowerCase.Mapping

namespace ContentQuery.Text

/-- Whether the first character that is not case-ignorable is cased. -/
def reachesCased (text : List Char) : Bool :=
  match text.dropWhile isCaseIgnorable with
  | [] => false
  | c :: _ => isCased c

/-- Whether a sigma ends a word: a cased character comes before it and none after it, marks in
between not counting. The text before is given backward. -/
def endsWord (before after : List Char) : Bool := reachesCased before && !reachesCased after

/-- Lower case of the rest of a text, given what stands before it, backward. -/
def lowerCaseAfter (before : List Char) : List Char → List Char
  | [] => []
  | c :: after =>
    let mapped :=
      if c = 'Σ' then [if endsWord before after then 'ς' else 'σ']
      else if c = 'İ' then ['i', '\u0307']
      else [lowerCaseChar c]
    mapped ++ lowerCaseAfter (c :: before) after

/-- The lower case of a text. -/
def lowerCase (text : String) : String := String.ofList (lowerCaseAfter [] text.toList)

end ContentQuery.Text
