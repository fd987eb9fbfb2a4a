import DebugBridge.Toml.Lexeme
import DebugBridge.Toml.Tables

/-!
# Reading TOML documents

Keys, values that nest, and the lines of a document.  `depth` bounds how deep values nest, as the
format's readers do; loops are bounded by the length of the text.
-/

namespace DebugBridge.Toml

/-- How many brackets may be open at once, and how many parts a key may have. -/
def maxDepth : Nat := 79

/-! ## Keys -/

def isBareKeyChar (c : Char) : Bool :=
  ('a' ≤ c && c ≤ 'z') || ('A' ≤ c && c ≤ 'Z') || c.isDigit || c == '_' || c == '-'

def readSimpleKey (input : List Char) : Option (String × List Char) :=
  match input with
  | '"' :: rest => readBasic (rest.length + 1) [] rest
  | '\'' :: rest => readLiteral rest
  | input =>
    let name := input.takeWhile isBareKeyChar
    if name.isEmpty then none else some (String.ofList name, input.drop name.length)

/-- The parts of a key that dots separate, blanks around them skipped; `done` is in reverse. -/
def readKeyParts : (fuel : Nat) → (done : List String) → Reader (List String)
  | 0, _, _ => none
  | fuel + 1, done, input =>
    match readSimpleKey (skipBlanks input) with
    | none => none
    | some (part, rest) =>
      match skipBlanks rest with
      | '.' :: rest => readKeyParts fuel (part :: done) rest
      | rest => some ((part :: done).reverse, rest)

def readKey (input : List Char) : Option (List String × List Char) :=
  readKeyParts maxDepth [] input

/-! ## Values -/

/-- The items of an array up to its bracket, from behind the opening one; `done` is in reverse. -/
def readItems (item : Reader Toml) : (fuel : Nat) → (done : List Toml) → Reader (List Toml)
  | 0, _, _ => none
  | fuel + 1, done, input =>
    match skipLines false input with
    | ']' :: rest => some (done.reverse, rest)
    | input =>
      match item input with
      | none => none
      | some (value, rest) =>
        match skipLines false rest with
        | ',' :: rest => readItems item fuel (value :: done) rest
        | ']' :: rest => some ((value :: done).reverse, rest)
        | _ => none

/-- A key, an equals sign and a value, with the blanks around them. -/
def readPair (value : Reader Toml) (input : List Char) :
    Option ((List String × Toml) × List Char) := do
  let (key, rest) ← readKey input
  match rest with
  | '=' :: rest =>
    let (read, rest) ← value (skipBlanks rest)
    return ((key, read), skipBlanks rest)
  | _ => none

/-- The pairs of an inline table up to its brace. -/
def readPairs (value : Reader Toml) : (fuel : Nat) → Entries → Reader Entries
  | 0, _, _ => none
  | fuel + 1, entries, input =>
    match readPair value input with
    | none => none
    | some ((key, read), rest) =>
      match entries.add key read with
      | none => none
      | some entries =>
        match rest with
        | ',' :: rest => readPairs value fuel entries rest
        | '\x7d' :: rest => some (entries, rest)
        | _ => none

/-- An inline table, from behind its opening brace. -/
def readInlineTable (value : Reader Toml) (input : List Char) : Option (Toml × List Char) :=
  match skipBlanks input with
  | '\x7d' :: rest => some (.table [], rest)
  | input =>
    (readPairs value (input.length + 1) [] input).map fun (entries, rest) =>
      (.table (entryValues entries), rest)

def readValue : (depth : Nat) → Reader Toml
  | depth, input =>
    match input with
    | '[' :: rest =>
      match depth with
      | 0 => none
      | depth + 1 =>
        (readItems (readValue depth) (rest.length + 1) [] rest).map fun (items, rest) =>
          (.array items, rest)
    | '\x7b' :: rest =>
      match depth with
      | 0 => none
      | depth + 1 => readInlineTable (readValue depth) rest
    | input => readScalar input
termination_by structural depth => depth

/-! ## Documents -/

/-- What follows a table header and the rest of its line. -/
def afterHeader? (closing : List Char) (input : List Char) : Option (List Char) :=
  (startsWith closing input).bind afterLine?

/-- Reads one line that says something. -/
def readLine (draft : Draft) (input : List Char) : Option (Draft × List Char) :=
  match input with
  | '#' :: _ => (afterLine? input).map fun rest => (draft, rest)
  | '[' :: '[' :: rest => do
    let (path, rest) ← readKey rest
    let rest ← afterHeader? [']', ']'] rest
    return (← draft.openRepeated path, rest)
  | '[' :: rest => do
    let (path, rest) ← readKey rest
    let rest ← afterHeader? [']'] rest
    return (← draft.openHeader path, rest)
  | input =>
    match afterNewline? input with
    | some rest => some (draft, rest)
    | none => do
      let ((key, value), rest) ← readPair (readValue maxDepth) input
      return (← draft.addKey key value, ← afterLine? rest)

def readDocument : (fuel : Nat) → Draft → List Char → Option Toml
  | 0, _, _ => none
  | fuel + 1, draft, input =>
    match skipBlanks input with
    | [] => draft.finish
    | input =>
      match readLine draft input with
      | some (draft, rest) => readDocument fuel draft rest
      | none => none

/-- The table that a document defines; nothing when it is no TOML.  A mark of the byte order in
front is skipped. -/
def parse? (text : String) : Option Toml :=
  let input := match text.toList with
    | '\uFEFF' :: rest => rest
    | input => input
  readDocument (input.length + 1) {} input

end DebugBridge.Toml
