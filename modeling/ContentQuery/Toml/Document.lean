/-
# Documents

A document is a sequence of lines: settings of a key, headers of tables and of elements of arrays
of tables, and lines with nothing but a comment. A setting belongs to the table of the last header
before it. Values may be arrays and tables in one piece; between the parts of those, line ends and
comments do not matter, but a key with points stays on its line.
-/

import ContentQuery.Toml.Scalar

namespace ContentQuery.Toml

/-- How deep arrays and tables in one piece may nest. -/
def maxNesting : Nat := 80

mutual

/-- Reads a value, in which arrays and tables may nest to a number of levels. The count bounds the
number of parts. -/
def readValue : Nat → Nat → List Char → Option (Value × List Char)
  | 0, _, _ => none
  | parts + 1, levels, text =>
    match text, levels with
    | '[' :: rest, levels + 1 =>
      (readItems parts levels (skipSpace rest)).map fun (items, rest) => (.array items, rest)
    | '\x7b' :: rest, levels + 1 =>
      (readEntries parts levels [] (skipSpace rest)).map fun (entries, rest) =>
        (.table (closeEntries entries), rest)
    | '"' :: _, _ | '\x27' :: _, _ =>
      (readString text).map fun (string, rest) => (.string string, rest)
    | _, _ => readScalar text

/-- Reads the items of an array up to its closing bracket; a comma may follow the last one. -/
def readItems : Nat → Nat → List Char → Option (List Value × List Char)
  | 0, _, _ => none
  | parts + 1, levels, text =>
    match text with
    | ']' :: rest => some ([], rest)
    | _ => do
      let (item, rest) ← readValue parts levels text
      match skipSpace rest with
      | ',' :: rest => do
        let (items, rest) ← readItems parts levels (skipSpace rest)
        return (item :: items, rest)
      | ']' :: rest => return ([item], rest)
      | _ => none

/-- Reads the settings of a table in one piece up to its closing brace, after those that it has
already; a comma may follow the last one. -/
def readEntries : Nat → Nat → Entries → List Char → Option (Entries × List Char)
  | 0, _, _, _ => none
  | parts + 1, levels, entries, text =>
    match text with
    | '\x7d' :: rest => some (entries, rest)
    | _ => do
      let ((path, key), rest) ← readKey text
      let '=' :: rest := skipSpace rest | none
      let (value, rest) ← readValue parts levels (skipSpace rest)
      let entries ← entries.insert value path key
      match skipSpace rest with
      | ',' :: rest => readEntries parts levels entries (skipSpace rest)
      | '\x7d' :: rest => return (entries, rest)
      | _ => none

end

/-- A document that has been read up to some line: all entries, and the path of the open table. -/
structure OpenDocument where
  entries : Entries
  current : List String

/-- Reads a header; a doubled one opens the next table of an array of tables. -/
def readHeader (document : OpenDocument) (text : List Char) : Option (OpenDocument × List Char) :=
  match text with
  | '[' :: '[' :: rest => do
    let ((path, key), rest) ← readKey rest
    let ']' :: ']' :: rest := rest | none
    let entries ← Entries.alter (Entries.openElement key) path document.entries
    return (⟨entries, path ++ [key]⟩, rest)
  | '[' :: rest => do
    let ((path, key), rest) ← readKey rest
    let ']' :: rest := rest | none
    let entries ← Entries.alter (Entries.openTable key) path document.entries
    return (⟨entries, path ++ [key]⟩, rest)
  | _ => none

/-- Reads a setting into the open table. -/
def readSetting (document : OpenDocument) (text : List Char) :
    Option (OpenDocument × List Char) := do
  let ((path, key), rest) ← readKey text
  let '=' :: rest := rest | none
  let rest := skipBlanks rest
  let (value, rest) ← readValue (2 * rest.length + 2) maxNesting rest
  let entries ← Entries.alter (Entries.insert value path key) document.current document.entries
  return ({ document with entries := entries }, rest)

/-- Reads lines up to the end of the text. The count bounds their number. -/
def readDocument : Nat → OpenDocument → List Char → Option OpenDocument
  | 0, _, _ => none
  | lines + 1, document, text =>
    match skipSpace text with
    | [] => some document
    | '[' :: rest => do
      let (document, rest) ← readHeader document ('[' :: rest)
      readDocument lines document (← readRestOfLine? rest)
    | text => do
      let (document, rest) ← readSetting document text
      readDocument lines document (← readRestOfLine? rest)

/-- The entries of a document, if its text is one. A mark of the byte order before the text is
left out. -/
def ofText? (text : String) : Option (List (String × Value)) :=
  let chars := match text.toList with
    | '\uFEFF' :: rest => rest
    | chars => chars
  (readDocument (chars.length + 1) ⟨[], []⟩ chars).map fun document => closeEntries document.entries

end ContentQuery.Toml
