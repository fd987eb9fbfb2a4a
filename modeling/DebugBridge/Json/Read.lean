import DebugBridge.Json.Lexeme

/-!
# Reading JSON texts

Values, lists and objects over a list of bytes.  `depth` is the number of brackets that may still
be opened, and `fuel` bounds the items of any one list; a text's length is always enough of it.
`skip` reads a value that nobody wants: it checks less (numbers may be out of range, surrogates
unpaired, brackets nested at will) and words some faults differently.
-/

namespace DebugBridge.Json

/-- A reader of something that nests. -/
abbrev Reader (α : Type) := (depth : Nat) → (fuel : Nat) → List UInt8 → Result α

/-- Whether a list goes on.  The comma between items is read, the closing bracket is not. -/
def nextItem (first : Bool) (input : List UInt8) : Result Bool :=
  match skipBlanks input with
  | [] => .error (.brokenAt .eofList 0)
  | b :: rest =>
    if b = closeBracket then .ok (false, b :: rest)
    else if first then .ok (true, b :: rest)
    else if b = comma then
      match skipBlanks rest with
      | [] => .error (.brokenAt .eofValue 0)
      | c :: tail =>
        if c = closeBracket then .error (.onNext .trailingComma (c :: tail))
        else .ok (true, c :: tail)
    else .error (.onNext .expectedListCommaOrEnd (b :: rest))

/-- Whether an object goes on.  The opening quote of the next name is not read yet. -/
def nextMember (first : Bool) (input : List UInt8) : Result Bool :=
  match skipBlanks input with
  | [] => .error (.brokenAt .eofObject 0)
  | b :: rest =>
    if b = closeBrace then .ok (false, b :: rest)
    else if first then
      if b = quoteMark then .ok (true, b :: rest) else .error (.onNext .keyNotString (b :: rest))
    else if b = comma then
      match skipBlanks rest with
      | [] => .error (.brokenAt .eofValue 0)
      | c :: tail =>
        if c = quoteMark then .ok (true, c :: tail)
        else if c = closeBrace then .error (.onNext .trailingComma (c :: tail))
        else .error (.onNext .keyNotString (c :: tail))
    else .error (.onNext .expectedObjectCommaOrEnd (b :: rest))

def readColon (input : List UInt8) : Result Unit :=
  match skipBlanks input with
  | [] => .error (.brokenAt .eofObject 0)
  | b :: rest => if b = colon then .ok ((), rest) else .error (.onNext .expectedColon (b :: rest))

/-- The closing bracket of a list whose items are all read. -/
def endList (input : List UInt8) : Result Unit :=
  match skipBlanks input with
  | [] => .error (.brokenAt .eofList 0)
  | b :: rest =>
    if b = closeBracket then .ok ((), rest)
    else if b = comma then
      match skipBlanks rest with
      | c :: tail =>
        if c = closeBracket then .error (.onNext .trailingComma (c :: tail))
        else .error (.onNext .trailingCharacters (c :: tail))
      | [] => .error (.onNext .trailingCharacters [])
    else .error (.onNext .trailingCharacters (b :: rest))

/-- The closing brace of an object whose members are all read. -/
def endObject (input : List UInt8) : Result Unit :=
  match skipBlanks input with
  | [] => .error (.brokenAt .eofObject 0)
  | b :: rest =>
    if b = closeBrace then .ok ((), rest)
    else if b = comma then .error (.onNext .trailingComma (b :: rest))
    else .error (.onNext .trailingCharacters (b :: rest))

/-- The items of a list up to its bracket, in reverse behind `done`. -/
def readItems {α : Type} (item : List UInt8 → Result α) :
    Nat → Bool → List α → List UInt8 → Result (List α)
  | 0, _, _, _ => .error (.brokenAt .eofList 0)
  | fuel + 1, first, done, input =>
    match nextItem first input with
    | .error failure => .error failure
    | .ok (false, rest) => .ok (done.reverse, rest)
    | .ok (true, rest) =>
      match item rest with
      | .error failure => .error failure
      | .ok (value, rest) => readItems item fuel false (value :: done) rest

/-- The members of an object up to its brace, in reverse behind `done`. -/
def readMembers {α : Type} (value : List UInt8 → Result α) :
    Nat → Bool → List (String × α) → List UInt8 → Result (List (String × α))
  | 0, _, _, _ => .error (.brokenAt .eofObject 0)
  | fuel + 1, first, done, input =>
    match nextMember first input with
    | .error failure => .error failure
    | .ok (false, rest) => .ok (done.reverse, rest)
    | .ok (true, rest) =>
      match readString rest.tail with
      | .error failure => .error failure
      | .ok (name, rest) =>
        match readColon rest with
        | .error failure => .error failure
        | .ok ((), rest) =>
          match value rest with
          | .error failure => .error failure
          | .ok (item, rest) => readMembers value fuel false ((name, item) :: done) rest

/-- A value, blanks before it skipped. -/
def readValue : Reader Json
  | depth, fuel, input =>
    match skipBlanks input with
    | [] => .error (.brokenAt .eofValue 0)
    | b :: rest =>
      if b = 0x6e then (readIdent afterN rest).map fun r => (Json.null, r.2)
      else if b = 0x74 then (readIdent afterT rest).map fun r => (Json.bool true, r.2)
      else if b = 0x66 then (readIdent afterF rest).map fun r => (Json.bool false, r.2)
      else if b = minus then (readNumber false rest).map fun r => (Json.number r.1, r.2)
      else if isDigit b then (readNumber true (b :: rest)).map fun r => (Json.number r.1, r.2)
      else if b = quoteMark then (readString rest).map fun r => (Json.string r.1, r.2)
      else if b = openBracket then
        match depth with
        | 0 => .error (.onNext .recursionLimit (b :: rest))
        | depth + 1 =>
          match readItems (readValue depth fuel) fuel true [] rest with
          | .error failure => .error failure
          | .ok (items, rest) => (endList rest).map fun r => (Json.array items, r.2)
      else if b = openBrace then
        match depth with
        | 0 => .error (.onNext .recursionLimit (b :: rest))
        | depth + 1 =>
          match readMembers (readValue depth fuel) fuel true [] rest with
          | .error failure => .error failure
          | .ok (members, rest) => (endObject rest).map fun r => (ofMembers members, r.2)
      else .error (.onNext .expectedValue (b :: rest))
termination_by structural depth => depth

/-! ## Skipping -/

/-- The digits of an exponent, from behind its mark. -/
def skipExponent (input : List UInt8) : Result Unit :=
  let input := match input with
    | 0x2b :: rest => rest
    | 0x2d :: rest => rest
    | _ => input
  match input with
  | [] => .error (.brokenAt .invalidNumber 0)
  | b :: rest =>
    if isDigit b then .ok ((), rest.dropWhile isDigit)
    else .error (.brokenAt .invalidNumber rest.length)

def skipFraction (input : List UInt8) : Result Unit :=
  let rest := input.dropWhile isDigit
  if (input.takeWhile isDigit).isEmpty then .error (.onNext .invalidNumber rest)
  else match rest with
    | b :: tail => if isExponentMark b then skipExponent tail else .ok ((), rest)
    | [] => .ok ((), rest)

def skipNumberTail (rest : List UInt8) : Result Unit :=
  match rest with
  | b :: tail =>
    if b = 0x2e then skipFraction tail
    else if isExponentMark b then skipExponent tail
    else .ok ((), rest)
  | [] => .ok ((), rest)

/-- A number, from behind its sign. -/
def skipNumber : List UInt8 → Result Unit
  | [] => .error (.brokenAt .invalidNumber 0)
  | b :: rest =>
    if b = 0x30 then
      if rest.head?.any isDigit then .error (.onNext .invalidNumber rest) else skipNumberTail rest
    else if isDigit b then skipNumberTail (rest.dropWhile isDigit)
    else .error (.brokenAt .invalidNumber rest.length)

/-- A string, from behind its opening quote. -/
def skipStringFrom : StringState → List UInt8 → Result Unit
  | _, [] => .error (.brokenAt .eofString 0)
  | .escape, b :: rest =>
    if b = 0x75 then skipStringFrom (.hex none []) rest
    else if (simpleEscape? b).isSome then skipStringFrom .plain rest
    else .error (.brokenAt .invalidEscape rest.length)
  | .hex _ digits, b :: rest =>
    if digits.length < 3 then skipStringFrom (.hex none (b :: digits)) rest
    else if (hexNumber? (b :: digits)).isSome then skipStringFrom .plain rest
    else .error (.brokenAt .invalidEscape rest.length)
  | _, b :: rest =>
    if b = quoteMark then .ok ((), rest)
    else if b = backslash then skipStringFrom .escape rest
    else if b < 0x20 then .error (.brokenAt .controlCharacter (rest.length + 1))
    else skipStringFrom .plain rest

/-- A value that is neither list nor object. -/
def skipScalar (b : UInt8) (rest : List UInt8) : Result Unit :=
  if b = 0x6e then readIdent afterN rest
  else if b = 0x74 then readIdent afterT rest
  else if b = 0x66 then readIdent afterF rest
  else if b = minus then skipNumber rest
  else if isDigit b then skipNumber (b :: rest)
  else if b = quoteMark then skipStringFrom .plain rest
  else .error (.onNext .expectedValue (b :: rest))

/-- An open bracket. -/
inductive Bracket
  | list
  | object

/-- The name of a member and its colon. -/
def skipName (input : List UInt8) : Result Unit :=
  match skipBlanks input with
  | [] => .error (.brokenAt .eofObject 0)
  | b :: rest =>
    if b = quoteMark then
      match skipStringFrom .plain rest with
      | .error failure => .error failure
      | .ok ((), rest) => readColon rest
    else .error (.onNext .keyNotString (b :: rest))

/-- What a skipping reader expects next. -/
inductive Expecting
  | value
  /-- The next item of the innermost bracket, or its end. -/
  | item (afterItem : Bool)

/-- Skips on, with the brackets that are still open. -/
def skipFrom : Nat → Expecting → List Bracket → List UInt8 → Result Unit
  | 0, _, _, _ => .error (.brokenAt .eofValue 0)
  | fuel + 1, .value, openBrackets, input =>
    match skipBlanks input with
    | [] => .error (.brokenAt .eofValue 0)
    | b :: rest =>
      if b = openBracket then skipFrom fuel (.item false) (.list :: openBrackets) rest
      else if b = openBrace then skipFrom fuel (.item false) (.object :: openBrackets) rest
      else match skipScalar b rest with
        | .error failure => .error failure
        | .ok ((), rest) => skipFrom fuel (.item true) openBrackets rest
  | _ + 1, .item _, [], input => .ok ((), input)
  | fuel + 1, .item afterItem, .list :: outer, input =>
    match skipBlanks input with
    | [] => .error (.brokenAt .eofList 0)
    | b :: rest =>
      if b = closeBracket then skipFrom fuel (.item true) outer rest
      else if !afterItem then skipFrom fuel .value (.list :: outer) (b :: rest)
      else if b = comma then skipFrom fuel .value (.list :: outer) rest
      else .error (.onNext .expectedListCommaOrEnd (b :: rest))
  | fuel + 1, .item afterItem, .object :: outer, input =>
    match skipBlanks input with
    | [] => .error (.brokenAt .eofObject 0)
    | b :: rest =>
      if b = closeBrace then skipFrom fuel (.item true) outer rest
      else if afterItem && b != comma then
        .error (.onNext .expectedObjectCommaOrEnd (b :: rest))
      else match skipName (if afterItem then rest else b :: rest) with
        | .error failure => .error failure
        | .ok ((), rest) => skipFrom fuel .value (.object :: outer) rest

/-- Reads over a value.  Every step but the last after a value or an opening bracket consumes a
byte, so twice the length is enough fuel. -/
def skip (input : List UInt8) : Result Unit :=
  skipFrom (2 * input.length + 2) .value [] input

/-! ## Whole texts -/

/-- Brackets that may be open at one place of a text. -/
def nestingLimit : Nat := 127

/-- Reads a whole text with `reader`; only blanks may follow. -/
def readWhole {α : Type} (reader : Reader α) (text : List UInt8) : Except Failure α :=
  match reader nestingLimit (text.length + 1) text with
  | .error failure => .error failure
  | .ok (value, rest) =>
    match skipBlanks rest with
    | [] => .ok value
    | rest => .error (.onNext .trailingCharacters rest)

/-- The value of a text. -/
def parse (text : List UInt8) : Except Failure Json := readWhole readValue text

end DebugBridge.Json
