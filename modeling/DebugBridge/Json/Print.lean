import DebugBridge.Decimal.Notation
import DebugBridge.Json.Value

/-!
# Compact JSON texts

A value is written without blanks, the members of an object in ascending order of their names.
The writers put characters in front of what follows, so that nothing is copied twice.
-/

namespace DebugBridge.Json

def hexDigit (n : Nat) : Char := Nat.digitChar n

/-- A character inside a string: quotes, backslashes and controls are escaped. -/
def escapeChar (c : Char) : List Char :=
  if c = '"' then ['\\', '"']
  else if c = '\\' then ['\\', '\\']
  else if c = '\x08' then ['\\', 'b']
  else if c = '\x0c' then ['\\', 'f']
  else if c = '\n' then ['\\', 'n']
  else if c = '\r' then ['\\', 'r']
  else if c = '\t' then ['\\', 't']
  else if c.toNat < 0x20 then
    ['\\', 'u', '0', '0', hexDigit (c.toNat / 16), hexDigit (c.toNat % 16)]
  else [c]

def stringOnto (s : String) (rest : List Char) : List Char :=
  '"' :: s.toList.foldr (fun c tail => escapeChar c ++ tail) ('"' :: rest)

def Number.print : Number → String
  | .int value => toString value
  | .float value => value.compact

mutual

/-- The text of a value, in front of `rest`. -/
def onto : Json → List Char → List Char
  | .null, rest => "null".toList ++ rest
  | .bool true, rest => "true".toList ++ rest
  | .bool false, rest => "false".toList ++ rest
  | .number value, rest => value.print.toList ++ rest
  | .string value, rest => stringOnto value rest
  | .array items, rest => '[' :: itemsOnto items (']' :: rest)
  | .object members, rest => '\x7b' :: membersOnto members ('\x7d' :: rest)

def itemsOnto : List Json → List Char → List Char
  | [], rest => rest
  | [item], rest => item.onto rest
  | item :: items, rest => item.onto (',' :: itemsOnto items rest)

def membersOnto : List (String × Json) → List Char → List Char
  | [], rest => rest
  | [(name, value)], rest => stringOnto name (':' :: value.onto rest)
  | (name, value) :: members, rest =>
    stringOnto name (':' :: value.onto (',' :: membersOnto members rest))

end

def chars (value : Json) : List Char := value.onto []

/-- The text of a value. -/
def print (value : Json) : String := String.ofList value.chars

/-- The text of a value in UTF-8. -/
def bytes (value : Json) : List UInt8 := value.print.toUTF8.data.toList

end DebugBridge.Json
