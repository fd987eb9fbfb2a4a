import DebugBridge.Text.Unprintable

/-!
# Quoted texts

A text between double quotes, with escapes for the quote, the backslash, a few controls, and every
character that would not show as itself.
-/

namespace DebugBridge.Text

/-- The digits of `n` in base sixteen, lower case, without leading zeros. -/
def hexDigits (n : Nat) : List Char := Nat.toDigits 16 n

def escapeCode (code : Nat) : List Char := ['\\', 'u', '\x7b'] ++ hexDigits code ++ ['\x7d']

/-- How a character is written inside a quoted text. -/
def quoteChar (c : Char) : List Char :=
  if c = '\x00' then ['\\', '0']
  else if c = '\t' then ['\\', 't']
  else if c = '\r' then ['\\', 'r']
  else if c = '\n' then ['\\', 'n']
  else if c = '\\' then ['\\', '\\']
  else if c = '"' then ['\\', '"']
  else if 0x20 ≤ c.toNat && c.toNat < 0x7f then [c]
  else if inRanges combining c.toNat || inRanges unprintable c.toNat then escapeCode c.toNat
  else [c]

def quotedChars (cs : List Char) : List Char := '"' :: cs.flatMap quoteChar ++ ['"']

def quoted (s : String) : String := String.ofList (quotedChars s.toList)

end DebugBridge.Text
