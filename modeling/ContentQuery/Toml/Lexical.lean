/-
# Blanks, comments, keys and strings

The readers of a document's smallest parts. Each takes the characters that are left and gives what
it read with the rest, or nothing where the text has another form.
-/

namespace ContentQuery.Toml

/-- A reader: what it read, and the rest. -/
abbrev Reader (α : Type) := List Char → Option (α × List Char)

/-- Whether a character is a blank within a line. -/
def isBlank (c : Char) : Bool := c == ' ' || c == '\t'

/-- The rest after blanks. -/
def skipBlanks (text : List Char) : List Char := text.dropWhile isBlank

/-- Whether a character may stand in a comment or a string: no control but the tab. -/
def isTextChar (c : Char) : Bool := c == '\t' || (0x20 ≤ c.val && c.val != 0x7F)

/-- The rest after a line end, which is a line feed with or without a carriage return before it.
-/
def readLineEnd? : List Char → Option (List Char)
  | '\n' :: rest => some rest
  | '\r' :: '\n' :: rest => some rest
  | _ => none

/-- The rest after a comment, if one stands here. -/
def skipComment : List Char → List Char
  | '#' :: rest => rest.dropWhile isTextChar
  | text => text

/-- The rest after blanks and a comment, which must be followed by a line end or the end of the
text. -/
def readRestOfLine? (text : List Char) : Option (List Char) :=
  match skipComment (skipBlanks text) with
  | [] => some []
  | text => readLineEnd? text

/-- The rest after blanks, comments and line ends. The count bounds the number of lines. -/
def skipLines : Nat → List Char → List Char
  | 0, text => text
  | lines + 1, text =>
    let text := skipComment (skipBlanks text)
    match readLineEnd? text with
    | some rest => skipLines lines rest
    | none => text

/-- The rest after blanks, comments and line ends. -/
def skipSpace (text : List Char) : List Char := skipLines text.length text

/-! ## Strings -/

/-- The value of a hexadecimal digit. -/
def hexDigit? (c : Char) : Option Nat :=
  if c.isDigit then some (c.toNat - '0'.toNat)
  else if 'a' ≤ c && c ≤ 'f' then some (c.toNat - 'a'.toNat + 10)
  else if 'A' ≤ c && c ≤ 'F' then some (c.toNat - 'A'.toNat + 10)
  else none

/-- Reads a count of hexadecimal digits after the value of those before. -/
def readHex (value : Nat) : Nat → Reader Nat
  | 0, text => some (value, text)
  | digits + 1, c :: rest => do readHex (value * 16 + (← hexDigit? c)) digits rest
  | _ + 1, [] => none

/-- The character of a code point; surrogates have none. -/
def charOf? (codePoint : Nat) : Option Char :=
  if h : codePoint.isValidChar then some (Char.ofNatAux codePoint h) else none

/-- Reads a character given by a count of hexadecimal digits. -/
def readCodePoint (digits : Nat) (text : List Char) : Option (Char × List Char) := do
  let (codePoint, rest) ← readHex 0 digits text
  return (← charOf? codePoint, rest)

/-- Reads what follows the backslash of an escape. -/
def readEscape : Reader Char
  | 'b' :: rest => some ('\x08', rest)
  | 't' :: rest => some ('\t', rest)
  | 'n' :: rest => some ('\n', rest)
  | 'f' :: rest => some ('\x0c', rest)
  | 'r' :: rest => some ('\r', rest)
  | 'e' :: rest => some ('\x1b', rest)
  | '"' :: rest => some ('"', rest)
  | '\\' :: rest => some ('\\', rest)
  | 'x' :: rest => readCodePoint 2 rest
  | 'u' :: rest => readCodePoint 4 rest
  | 'U' :: rest => readCodePoint 8 rest
  | _ => none

/-- Reads the rest of a string on one line, up to its closing quote. The count bounds its length.
-/
def readLine (quote : Char) (escapes : Bool) : Nat → Reader (List Char)
  | 0, _ => none
  | _ + 1, [] => none
  | length + 1, c :: rest =>
    if c = quote then some ([], rest)
    else if escapes && c == '\\' then do
      let (d, rest) ← readEscape rest
      let (text, rest) ← readLine quote escapes length rest
      return (d :: text, rest)
    else if isTextChar c then do
      let (text, rest) ← readLine quote escapes length rest
      return (c :: text, rest)
    else none

/-- The rest after blanks and line ends. The count bounds the number of line ends. -/
def skipBlankLines : Nat → List Char → List Char
  | 0, text => text
  | lines + 1, text =>
    match readLineEnd? (skipBlanks text) with
    | some rest => skipBlankLines lines rest
    | none => skipBlanks text

/-- The rest after a line end that an escape takes away, with the blanks and empty lines after it.
-/
def readFoldedLine? (text : List Char) : Option (List Char) :=
  (readLineEnd? (skipBlanks text)).map fun rest => skipBlankLines rest.length rest

/-- Reads the rest of a string on several lines, up to three closing quotes; one or two quotes
more before them belong to the string. The count bounds its length. -/
def readLines (quote : Char) (escapes : Bool) : Nat → Reader (List Char)
  | 0, _ => none
  | length + 1, text =>
    let quotes := (text.takeWhile (· == quote)).length
    if 3 ≤ quotes then
      if quotes ≤ 5 then some (List.replicate (quotes - 3) quote, text.drop quotes) else none
    else match text with
      | [] => none
      | c :: rest =>
        if escapes && c == '\\' then
          match readFoldedLine? rest with
          | some rest => readLines quote escapes length rest
          | none => do
            let (d, rest) ← readEscape rest
            let (text, rest) ← readLines quote escapes length rest
            return (d :: text, rest)
        else match readLineEnd? (c :: rest) with
          | some rest => do
            let (text, rest) ← readLines quote escapes length rest
            return ('\n' :: text, rest)
          | none =>
            if isTextChar c then do
              let (text, rest) ← readLines quote escapes length rest
              return (c :: text, rest)
            else none

/-- Reads a string; single quotes take everything in them as it is. A line end right after three
opening quotes does not belong to the string. -/
def readString (text : List Char) : Option (String × List Char) :=
  match text with
  | quote :: rest =>
    if quote = '"' || quote = '\x27' then
      let escapes := quote == '"'
      let found :=
        if [quote, quote].isPrefixOf rest then
          let body := rest.drop 2
          readLines quote escapes (text.length + 1) ((readLineEnd? body).getD body)
        else readLine quote escapes (text.length + 1) rest
      found.map fun (chars, rest) => (String.ofList chars, rest)
    else none
  | [] => none

/-! ## Keys -/

/-- Whether a character may stand in a bare key. -/
def isKeyChar (c : Char) : Bool := c.isAlphanum || c == '_' || c == '-'

/-- Reads one key, bare or quoted; a quoted one stays on its line. -/
def readSimpleKey (text : List Char) : Option (String × List Char) :=
  match text with
  | quote :: rest =>
    if quote = '"' || quote = '\x27' then
      (readLine quote (quote == '"') (text.length + 1) rest).map fun (chars, rest) =>
        (String.ofList chars, rest)
    else
      let key := text.takeWhile isKeyChar
      if key.isEmpty then none else some (String.ofList key, text.dropWhile isKeyChar)
  | [] => none

/-- Reads keys with points between them, blanks around the points allowed. The count bounds their
number. -/
def readKeys : Nat → Reader (List String)
  | 0, _ => none
  | keys + 1, text => do
    let (key, rest) ← readSimpleKey (skipBlanks text)
    match skipBlanks rest with
    | '.' :: rest => do
      let (path, rest) ← readKeys keys rest
      return (key :: path, rest)
    | rest => return ([key], rest)

/-- How many keys may have points between them. -/
def maxKeys : Nat := 81

/-- Reads a key with points, as the keys before the last one and the last one, with blanks around
it. -/
def readKey (text : List Char) : Option ((List String × String) × List Char) := do
  let (keys, rest) ← readKeys maxKeys text
  return ((keys.dropLast, ← keys.getLast?), rest)

end ContentQuery.Toml
