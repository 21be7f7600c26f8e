/-
# Numbers, dates and truth values

The values that are written without quotes. Such a value goes up to a line end, a comment or a mark
of an array or a table, and may have blanks in it, as a date has one before its time of day. A
number is known by its form and kept as it was written: no setting is a number, so none is ever
computed.
-/

import ContentQuery.DateTime
import ContentQuery.Numeric.Decimal
import ContentQuery.Toml.Lexical
import ContentQuery.Toml.Value

namespace ContentQuery.Toml

/-- Whether a character may stand in a part of a word, between blanks. -/
def isWordChar (c : Char) : Bool :=
  !isBlank c && c != '\n' && c != '\r' && c != '#' && c != '=' && c != ',' && c != '[' && c != ']'
    && c != '\x7b' && c != '\x7d'

/-! ## Numbers -/

/-- Whether a character is a hexadecimal digit. -/
def isHexDigit (c : Char) : Bool := (hexDigit? c).isSome

/-- Whether every underscore of a text has a digit on both sides; the flag says whether one stands
before the text. -/
def areSeparators (isDigit : Char → Bool) : Bool → List Char → Bool
  | _, [] => true
  | afterDigit, '_' :: rest =>
    afterDigit && (rest.head?.map isDigit).getD false && areSeparators isDigit false rest
  | _, c :: rest => areSeparators isDigit (isDigit c) rest

/-- Whether a text has nothing but digits and underscores. -/
def areDigits (isDigit : Char → Bool) (text : List Char) : Bool :=
  text.all fun c => isDigit c || c == '_'

/-- Whether a text is an integer in another base than ten; its digits may be missing. -/
def isBasedInteger (text : List Char) : Bool :=
  let areDigitsOf (isDigit : Char → Bool) (digits : List Char) :=
    areDigits isDigit digits && areSeparators isDigit false digits
  match text with
  | '0' :: 'x' :: digits => areDigitsOf isHexDigit digits
  | '0' :: 'o' :: digits => areDigitsOf (fun c => '0' ≤ c && c ≤ '7') digits
  | '0' :: 'b' :: digits => areDigitsOf (fun c => c == '0' || c == '1') digits
  | _ => false

/-- The text after an optional sign. -/
def dropSign : List Char → List Char
  | '+' :: rest => rest
  | '-' :: rest => rest
  | text => text

/-- Whether a character begins the exponent of a number. -/
def isExponentMark (c : Char) : Bool := c == 'e' || c == 'E'

/-- Whether a text is a decimal integer; only zero itself begins with a zero. From the first
underscore on the word is held to its separators alone: each has a digit on both sides, where the
digits of base sixteen count too. So `1_f` and `1_0-1` are integers. A point, an exponent mark or a
space makes the word no integer. -/
def isDecimal (text : List Char) : Bool :=
  let unsigned := dropSign text
  let digits := unsigned.takeWhile Char.isDigit
  let rest := unsigned.dropWhile Char.isDigit
  match rest with
  | [] => !digits.isEmpty && (digits.head? != some '0' || digits.length == 1)
  | '_' :: _ =>
    digits.head? != some '0' && rest.all (fun c => c != '.' && c != ' ' && !isExponentMark c)
      && areSeparators isHexDigit false unsigned
  | _ => false

/-- Whether a text has nothing but decimal digits and underscores, and a digit among them. -/
def isRun (text : List Char) : Bool := areDigits Char.isDigit text && text.any Char.isDigit

/-- Whether a text is the whole part of a floating point number, which begins with a zero only if
it has no other digit. -/
def isWholePart (text : List Char) : Bool :=
  isRun text && (text.head? != some '0' || text.countP Char.isDigit == 1)

/-- Whether a text is a floating point number, one with a fraction, an exponent or both. Its
underscores stand between decimal digits. -/
def isFloat (text : List Char) : Bool :=
  let unsigned := dropSign text
  if unsigned = ['i', 'n', 'f'] || unsigned = ['n', 'a', 'n'] then true
  else
    let mantissa := unsigned.takeWhile fun c => !isExponentMark c
    let exponent := unsigned.drop mantissa.length
    let whole := mantissa.takeWhile (· != '.')
    let fraction := mantissa.drop whole.length
    isWholePart whole
      && (fraction.isEmpty || isRun (fraction.drop 1))
      && (exponent.isEmpty || isRun (dropSign (exponent.drop 1)))
      && !(fraction.isEmpty && exponent.isEmpty)
      && areSeparators Char.isDigit false unsigned

/-! ## Dates -/

/-- The value of a count of decimal digits, and the rest. -/
def readDigits (count : Nat) (text : List Char) : Option (Nat × List Char) :=
  let digits := text.take count
  if digits.length = count ∧ digits.all Char.isDigit then
    some (Decimal.digitsValue digits, text.drop count)
  else none

/-- The rest after a day of the calendar. -/
def readDate? (text : List Char) : Option (List Char) := do
  let (year, rest) ← readDigits 4 text
  let '-' :: rest := rest | none
  let (month, rest) ← readDigits 2 rest
  let '-' :: rest := rest | none
  let (day, rest) ← readDigits 2 rest
  if (1 ≤ month && month ≤ 12) && (1 ≤ day && day ≤ daysInMonth year month) then some rest
  else none

/-- The rest after a fraction of a second, if one stands here. -/
def readFraction? : List Char → Option (List Char)
  | '.' :: rest =>
    if (rest.head?.map Char.isDigit).getD false then some (rest.dropWhile Char.isDigit) else none
  | text => some text

/-- The rest after a time of day; the seconds may be left out. -/
def readTime? (text : List Char) : Option (List Char) := do
  let (hour, rest) ← readDigits 2 text
  let ':' :: rest := rest | none
  let (minute, rest) ← readDigits 2 rest
  if 24 ≤ hour || 60 ≤ minute then none
  else match rest with
    | ':' :: rest => do
      let (second, rest) ← readDigits 2 rest
      if 60 < second then none else readFraction? rest
    | rest => some rest

/-- Whether a text is empty or the offset of a time zone. -/
def isOffset : List Char → Bool
  | [] => true
  | ['Z'] | ['z'] => true
  | sign :: rest =>
    (sign == '+' || sign == '-') &&
      match readDigits 2 rest with
      | some (hour, ':' :: rest) =>
        match readDigits 2 rest with
        | some (minute, []) => hour < 24 && minute < 60
        | _ => false
      | _ => false

/-- Whether a text is a date, a time of day, or both with or without an offset. -/
def isDateTime (text : List Char) : Bool :=
  match readDate? text with
  | some [] => true
  | some (separator :: rest) =>
    (separator == 'T' || separator == 't' || separator == ' ') &&
      match readTime? rest with
      | some rest => isOffset rest
      | none => false
  | none => readTime? text == some []

/-! ## Words -/

/-- The value of a word. -/
def scalarOf? (word : List Char) : Option Value :=
  if word = ['t', 'r', 'u', 'e'] then some (.bool true)
  else if word = ['f', 'a', 'l', 's', 'e'] then some (.bool false)
  else if isBasedInteger word || isDecimal word || isFloat word then
    some (.number (String.ofList word))
  else if isDateTime word then some (.dateTime (String.ofList word))
  else none

/-- Reads the parts of a word with the blanks between them. The blanks before a quote, a comment, a
mark or a line end are not in the word. The count bounds the number of parts. -/
def readParts : Nat → List Char → List Char × List Char
  | 0, text => ([], text)
  | parts + 1, text =>
    let part := text.takeWhile isWordChar
    let rest := text.dropWhile isWordChar
    match skipBlanks rest with
    | [] => (part, rest)
    | c :: next =>
      if isWordChar c && c != '"' && c != '\x27' then
        let (more, after) := readParts parts (c :: next)
        (part ++ rest.takeWhile isBlank ++ more, after)
      else (part, rest)

/-- Reads a word. -/
def readWord (text : List Char) : List Char × List Char := readParts (text.length + 1) text

/-- Reads a number, a date or a truth value. -/
def readScalar (text : List Char) : Option (Value × List Char) :=
  let (word, rest) := readWord text
  (scalarOf? word).map fun value => (value, rest)

end ContentQuery.Toml
