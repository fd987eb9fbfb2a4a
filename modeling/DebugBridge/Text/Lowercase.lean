import DebugBridge.Text.LetterCase

/-!
# Lower case

The full lower-case mapping of a text.  Every character maps on its own, except the capital sigma,
which becomes a final sigma where a word ends: after a cased character and not before one, with
case-ignorable characters looked through on both sides.
-/

namespace DebugBridge.Text

def isCased (c : Char) : Bool := inRanges cased c.toNat

def isCaseIgnorable (c : Char) : Bool := inRanges caseIgnorable c.toNat

/-- The shift of a code point under the simple lower-case mapping. -/
def lowerCaseShift (code : Nat) : Int :=
  match lowerCaseShifts.find? fun entry =>
      entry.1 ≤ code && code ≤ entry.2.1 && (code - entry.1) % entry.2.2.1 == 0 with
  | some entry => entry.2.2.2
  | none => 0

/-- Lower case of a character out of context. -/
def lowerChar (c : Char) : List Char :=
  if c.toNat < 128 then [c.toLower]
  else if c = 'İ' then ['i', '\u0307']
  else [Char.ofNat (c.toNat + lowerCaseShift c.toNat).toNat]

/-- Whether the first character that is not case-ignorable has case. -/
def meetsCased (cs : List Char) : Bool :=
  match cs.dropWhile isCaseIgnorable with
  | [] => false
  | c :: _ => isCased c

/-- Lower case of `rest`, which follows the reverse of `before`. -/
def lowerAfter (before : List Char) : List Char → List Char
  | [] => []
  | c :: rest =>
    let lower := if c = 'Σ' then
        (if meetsCased before && !meetsCased rest then ['ς'] else ['σ'])
      else lowerChar c
    lower ++ lowerAfter (c :: before) rest

def lowercase (s : String) : String := String.ofList (lowerAfter [] s.toList)

end DebugBridge.Text
