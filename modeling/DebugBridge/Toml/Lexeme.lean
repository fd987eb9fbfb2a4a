import DebugBridge.Decimal.Rounding
import DebugBridge.Toml.Value
import DebugBridge.Url.Host

/-!
# Lexemes of TOML

Blanks, comments, strings, numbers and dates.  A reader takes a text and gives what it read and
what follows, or nothing when the text departs from the grammar.
-/

namespace DebugBridge.Toml

/-- A reader of something at the start of a text. -/
abbrev Reader (α : Type) := List Char → Option (α × List Char)

/-! ## Blanks and comments -/

def isBlank (c : Char) : Bool := c == ' ' || c == '\t'

/-- A character that may stand in comments: no control but the tab. -/
def isTextChar (c : Char) : Bool := c == '\t' || (0x20 ≤ c.toNat && c.toNat != 0x7f)

def skipBlanks (input : List Char) : List Char := input.dropWhile isBlank

/-- What follows a line end. -/
def afterNewline? : List Char → Option (List Char)
  | '\n' :: rest => some rest
  | '\r' :: '\n' :: rest => some rest
  | _ => none

def skipComment (input : List Char) : List Char :=
  match input with
  | '#' :: rest => rest.dropWhile isTextChar
  | input => input

/-- What follows the end of a line: blanks and a comment may stand before it. -/
def afterLine? (input : List Char) : Option (List Char) :=
  match skipComment (skipBlanks input) with
  | [] => some []
  | rest => afterNewline? rest

/-- Skips blanks, comments and line ends. -/
def skipLines : (inComment : Bool) → List Char → List Char
  | _, [] => []
  | _, '\n' :: rest => skipLines false rest
  | _, '\r' :: '\n' :: rest => skipLines false rest
  | true, c :: rest => if isTextChar c then skipLines true rest else c :: rest
  | false, c :: rest =>
    if isBlank c then skipLines false rest
    else if c = '#' then skipLines true rest
    else c :: rest

/-! ## Strings -/

/-- The character with a code written in hexadecimal digits. -/
def codePoint? (digits : List Char) : Option Char := do
  let code ← Url.numberIn? 16 digits
  if code < 0xd800 || (0xdfff < code && code < 0x110000) then some (Char.ofNat code) else none

/-- An escape sequence, from behind its backslash. -/
def readEscape : Reader Char
  | 'b' :: rest => some ('\x08', rest)
  | 't' :: rest => some ('\t', rest)
  | 'n' :: rest => some ('\n', rest)
  | 'f' :: rest => some ('\x0c', rest)
  | 'r' :: rest => some ('\r', rest)
  | '"' :: rest => some ('"', rest)
  | '\\' :: rest => some ('\\', rest)
  | 'u' :: rest =>
    if rest.length < 4 then none else (codePoint? (rest.take 4)).map fun c => (c, rest.drop 4)
  | 'U' :: rest =>
    if rest.length < 8 then none else (codePoint? (rest.take 8)).map fun c => (c, rest.drop 8)
  | _ => none

/-- The rest of a string with escapes, from behind its quote; `done` is in reverse. -/
def readBasic : (fuel : Nat) → (done : List Char) → Reader String
  | 0, _, _ => none
  | _ + 1, _, [] => none
  | fuel + 1, done, c :: rest =>
    if c = '"' then some (String.ofList done.reverse, rest)
    else if c = '\\' then
      match readEscape rest with
      | some (c, rest) => readBasic fuel (c :: done) rest
      | none => none
    else if isTextChar c then readBasic fuel (c :: done) rest
    else none

/-- The rest of a string without escapes, from behind its apostrophe. -/
def readLiteral (input : List Char) : Option (String × List Char) :=
  let text := input.takeWhile fun c => isTextChar c && c != '\''
  match input.drop text.length with
  | '\'' :: rest => some (String.ofList text, rest)
  | _ => none

def skipNewline (input : List Char) : List Char := (afterNewline? input).getD input

/-- Quotes at the end of a string of several lines: three close it, up to two before them belong to
the string.  Fewer than three do not close it. -/
def closingQuotes (quote : Char) (input : List Char) : Option (List Char × List Char) :=
  let run := (input.takeWhile (· == quote)).length
  if run < 3 then none
  else
    let kept := min (run - 3) 2
    some (List.replicate kept quote, input.drop (kept + 3))

/-- Skips blanks and line ends; a carriage return alone ends no line. -/
def skipBlankLines : List Char → List Char
  | [] => []
  | '\n' :: rest => skipBlankLines rest
  | '\r' :: '\n' :: rest => skipBlankLines rest
  | c :: rest => if isBlank c then skipBlankLines rest else c :: rest

/-- What follows a backslash that joins lines. -/
def afterJoint? (input : List Char) : Option (List Char) :=
  (afterNewline? (skipBlanks input)).map skipBlankLines

/-- The rest of a string of several lines; `done` is in reverse. -/
def readLines (quote : Char) (escapes : Bool) : (fuel : Nat) → (done : List Char) → Reader String
  | 0, _, _ => none
  | _ + 1, _, [] => none
  | fuel + 1, done, c :: rest =>
    if c = quote then
      match closingQuotes quote (c :: rest) with
      | some (kept, rest) => some (String.ofList (done.reverse ++ kept), rest)
      | none => readLines quote escapes fuel (c :: done) rest
    else if escapes && c == '\\' then
      match afterJoint? rest with
      | some rest => readLines quote escapes fuel done rest
      | none =>
        match readEscape rest with
        | some (c, rest) => readLines quote escapes fuel (c :: done) rest
        | none => none
    else match afterNewline? (c :: rest) with
      | some rest => readLines quote escapes fuel ('\n' :: done) rest
      | none => if isTextChar c then readLines quote escapes fuel (c :: done) rest else none

/-- A string of any kind. -/
def readString (input : List Char) : Option (String × List Char) :=
  match input with
  | '"' :: '"' :: '"' :: rest => readLines '"' true (rest.length + 1) [] (skipNewline rest)
  | '\'' :: '\'' :: '\'' :: rest => readLines '\'' false (rest.length + 1) [] (skipNewline rest)
  | '"' :: rest => readBasic (rest.length + 1) [] rest
  | '\'' :: rest => readLiteral rest
  | _ => none

/-! ## Numbers -/

/-- Digits that single underscores may separate; the first and the last are digits. -/
def readDigits (isDigit : Char → Bool) (input : List Char) : Option (List Char × List Char) :=
  let run := input.takeWhile fun c => isDigit c || c == '_'
  let parts := Url.splitAt (· == '_') run
  if parts.any List.isEmpty then none else some (parts.flatten, input.drop run.length)

/-- A sign, and what follows it. -/
def readSign : List Char → Bool × List Char
  | '-' :: rest => (true, rest)
  | '+' :: rest => (false, rest)
  | input => (false, input)

/-- Decimal digits without a zero in front. -/
def readWhole : Reader (List Char)
  | '0' :: rest => some (['0'], rest)
  | input => readDigits Char.isDigit input

def fitsInteger (value : Int) : Bool := -0x8000000000000000 ≤ value && value < 0x8000000000000000

def integer? (value : Int) : Option Toml :=
  if fitsInteger value then some (.integer value) else none

/-- An integer behind a mark of its base. -/
def readBased (base : Nat) (input : List Char) : Option (Toml × List Char) := do
  let isDigit (c : Char) : Bool := (Url.hexDigitValue? c).any (· < base)
  let (digits, rest) ← readDigits isDigit input
  let value ← Url.numberIn? base digits
  return (← integer? value, rest)

def readInteger (input : List Char) : Option (Toml × List Char) :=
  match input with
  | '0' :: 'x' :: rest => readBased 16 rest
  | '0' :: 'o' :: rest => readBased 8 rest
  | '0' :: 'b' :: rest => readBased 2 rest
  | input => do
    let (negative, rest) := readSign input
    let (digits, rest) ← readWhole rest
    let value ← Url.numberIn? 10 digits
    return (← integer? (if negative then -(value : Int) else value), rest)

/-- An exponent with its mark; zero when there is none. -/
def readExponent (input : List Char) : Option (Int × List Char) :=
  match input with
  | c :: rest =>
    if c = 'e' || c = 'E' then do
      let (negative, rest) := readSign rest
      let (digits, rest) ← readDigits Char.isDigit rest
      let value ← Url.numberIn? 10 digits
      return (if negative then -(value : Int) else value, rest)
    else some (0, input)
  | [] => some (0, [])

/-- The digits behind a point; none when there is no point. -/
def readFraction (input : List Char) : Option (List Char × List Char) :=
  match input with
  | '.' :: rest => readDigits Char.isDigit rest
  | input => some ([], input)

def startsWith (word : List Char) (input : List Char) : Option (List Char) :=
  if word.isPrefixOf input then some (input.drop word.length) else none

/-- Infinities and what is no number. -/
def readSpecialFloat (input : List Char) : Option (Toml × List Char) :=
  let (negative, rest) := readSign input
  match startsWith "inf".toList rest, startsWith "nan".toList rest with
  | some rest, _ => some (.float (.infinity negative), rest)
  | none, some rest => some (.float .notANumber, rest)
  | none, none => none

/-- A number with a fraction or an exponent.  Too great a one is no number. -/
def readFloat (input : List Char) : Option (Toml × List Char) := do
  let (negative, unsigned) := readSign input
  let (whole, afterWhole) ← readWhole unsigned
  let (fraction, afterFraction) ← readFraction afterWhole
  let (exponent, rest) ← readExponent afterFraction
  if rest.length = afterWhole.length then none
  else
    let digits ← Url.numberIn? 10 (whole ++ fraction)
    let value := Binary64.ofDecimal negative digits (exponent - fraction.length)
    if value = .infinity false then none else some (.float value, rest)

/-! ## Dates -/

/-- A number of so many digits within bounds. -/
def readField (count low high : Nat) (input : List Char) : Option (Nat × List Char) :=
  let digits := input.take count
  if digits.length = count && digits.all Char.isDigit then do
    let value ← Url.numberIn? 10 digits
    if low ≤ value ∧ value ≤ high then some (value, input.drop count) else none
  else none

def readMark (mark : Char) : List Char → Option (List Char)
  | c :: rest => if c = mark then some rest else none
  | [] => none

def daysInMonth (year month : Nat) : Nat :=
  if month = 2 then
    if year % 4 = 0 && (year % 100 != 0 || year % 400 = 0) then 29 else 28
  else if month = 4 || month = 6 || month = 9 || month = 11 then 30
  else 31

/-- What follows a date. -/
def afterDate? (input : List Char) : Option (List Char) := do
  let (year, rest) ← readField 4 0 9999 input
  let rest ← readMark '-' rest
  let (month, rest) ← readField 2 1 12 rest
  let rest ← readMark '-' rest
  let (_, rest) ← readField 2 1 (daysInMonth year month) rest
  return rest

/-- What follows a time of day. -/
def afterTime? (input : List Char) : Option (List Char) := do
  let (_, rest) ← readField 2 0 23 input
  let rest ← readMark ':' rest
  let (_, rest) ← readField 2 0 59 rest
  let rest ← readMark ':' rest
  let (_, rest) ← readField 2 0 60 rest
  match rest with
  | '.' :: fraction =>
    let digits := fraction.takeWhile Char.isDigit
    if digits.isEmpty then some rest else some (fraction.drop digits.length)
  | _ => return rest

/-- What follows a distance from universal time, if there is one. -/
def afterOffset (input : List Char) : List Char :=
  let clock? (rest : List Char) : Option (List Char) := do
    let (_, rest) ← readField 2 0 23 rest
    let rest ← readMark ':' rest
    let (_, rest) ← readField 2 0 59 rest
    return rest
  match input with
  | 'Z' :: rest => rest
  | 'z' :: rest => rest
  | '+' :: rest => (clock? rest).getD input
  | '-' :: rest => (clock? rest).getD input
  | _ => input

def isTimeMark (c : Char) : Bool := c == 'T' || c == 't' || c == ' '

/-- What follows the time behind a date, if there is one. -/
def afterTimePart (input : List Char) : List Char :=
  match input with
  | c :: rest =>
    if isTimeMark c then
      match afterTime? rest with
      | some rest => afterOffset rest
      | none => input
    else input
  | [] => []

def readDatetime (input : List Char) : Option (Toml × List Char) :=
  match afterDate? input with
  | some rest => some (.datetime, afterTimePart rest)
  | none => (afterTime? input).map fun rest => (.datetime, rest)

/-- A value that is neither array nor table. -/
def readScalar (input : List Char) : Option (Toml × List Char) :=
  match input with
  | [] => none
  | c :: _ =>
    if c = '"' || c = '\'' then (readString input).map fun r => (.string r.1, r.2)
    else if c = 't' then (startsWith "true".toList input).map fun rest => (.boolean true, rest)
    else if c = 'f' then (startsWith "false".toList input).map fun rest => (.boolean false, rest)
    else if c.isDigit || c = '+' || c = '-' then
      ((readDatetime input).or (readFloat input)).or
        ((readSpecialFloat input).or (readInteger input))
    else readSpecialFloat input

end DebugBridge.Toml
