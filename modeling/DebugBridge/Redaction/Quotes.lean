/-!
# Redaction of error texts

Error texts may quote what a user wrote, between double quotes or backquotes.  Two rules take such
quotations out: one for texts about JSON and one for texts about configurations.
-/

namespace DebugBridge.Redaction

/-- What stands for a quotation. -/
def mark : List Char := "<redacted>".toList

/-- Replaces the text between each odd double quote and the next one.  `pending` is the text since
an open quote, in reverse.  Also tells whether every quote was closed; what follows an open quote is
kept. -/
def redactPairs : (pending : Option (List Char)) → List Char → List Char × Bool
  | none, [] => ([], true)
  | some pending, [] => (pending.reverse, false)
  | none, c :: rest =>
    let (text, closed) := redactPairs (if c = '"' then some [] else none) rest
    (c :: text, closed)
  | some pending, c :: rest =>
    if c = '"' then
      let (text, closed) := redactPairs none rest
      (mark ++ '"' :: text, closed)
    else redactPairs (some (c :: pending)) rest

/-- Replaces the text up to the next backquote, if there is one. -/
def redactToBackquote (text : List Char) : List Char :=
  match text.dropWhile (· != '\x60') with
  | [] => text
  | rest => mark ++ rest

/-- Replaces the text between the first two backquotes. -/
def redactFirstBackquoted (text : List Char) : List Char :=
  match text.dropWhile (· != '\x60') with
  | [] => text
  | mark :: rest => text.takeWhile (· != '\x60') ++ mark :: redactToBackquote rest

/-- Redacts an error text about JSON.  An open double quote ends the work. -/
def jsonChars (text : List Char) : List Char :=
  match redactPairs none text with
  | (text, true) => redactFirstBackquoted text
  | (text, false) => text

def json (text : String) : String := String.ofList (jsonChars text.toList)

/-- Length of a quotation from behind its opening quote through its closing one: a backslash takes
the next character along, which must not be a line feed. -/
def quotationLength? : (escaped : Bool) → List Char → Option Nat
  | _, [] => none
  | true, c :: rest => if c = '\n' then none else (quotationLength? false rest).map (· + 1)
  | false, c :: rest =>
    if c = '"' then some 1
    else (quotationLength? (c == '\\') rest).map (· + 1)

/-- Replaces every quotation, read from left to right; `skip` characters belong to the last one. -/
def redactQuotations : (skip : Nat) → List Char → List Char
  | _, [] => []
  | skip + 1, _ :: rest => redactQuotations skip rest
  | 0, c :: rest =>
    if c = '"' then
      match quotationLength? false rest with
      | some length => '"' :: mark ++ '"' :: redactQuotations length rest
      | none => c :: redactQuotations 0 rest
    else c :: redactQuotations 0 rest

/-- What precedes and what follows the first occurrence of a pattern. -/
def splitAtFirst (pattern : List Char) : List Char → Option (List Char × List Char)
  | [] => if pattern.isEmpty then some ([], []) else none
  | c :: rest =>
    if pattern.isPrefixOf (c :: rest) then some ([], (c :: rest).drop pattern.length)
    else (splitAtFirst pattern rest).map fun (before, after) => (c :: before, after)

def unknownField : List Char := "unknown field \x60".toList

/-- Replaces the name of the first unknown field that is mentioned. -/
def redactUnknownField (text : List Char) : List Char :=
  match splitAtFirst unknownField text with
  | some (before, after) => before ++ unknownField ++ redactToBackquote after
  | none => text

/-- Redacts an error text about a configuration. -/
def configurationChars (text : List Char) : List Char :=
  redactUnknownField (redactQuotations 0 text)

def configuration (text : String) : String := String.ofList (configurationChars text.toList)

end DebugBridge.Redaction
