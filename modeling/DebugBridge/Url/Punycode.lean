/-!
# Punycode

Writes a label with characters beyond ASCII in ASCII: first its ASCII characters, then the others
as differences between ascending code points, each in digits of base 36 whose thresholds adapt.
Reading puts the characters back into their places.
-/

namespace DebugBridge.Url.Punycode

def digit (n : Nat) : Char := if n < 26 then Char.ofNat (0x61 + n) else Char.ofNat (0x16 + n)

/-- The threshold of the digit at weight `k`. -/
def threshold (k bias : Nat) : Nat :=
  if k ≤ bias then 1 else if bias + 26 ≤ k then 26 else k - bias

def adaptLoop (delta k : Nat) : Nat × Nat :=
  if 455 < delta then adaptLoop (delta / 35) (k + 36) else (delta, k)
termination_by delta
decreasing_by exact Nat.div_lt_self (by omega) (by omega)

def adapt (delta count : Nat) (first : Bool) : Nat :=
  let scaled := if first then delta / 700 else delta / 2
  let (delta, k) := adaptLoop (scaled + scaled / count) 0
  k + 36 * delta / (delta + 38)

theorem threshold_pos (k bias : Nat) : 1 ≤ threshold k bias := by
  unfold threshold
  split
  · omega
  · split <;> omega

/-- A difference in digits, the least significant one first. -/
def digits (bias k n : Nat) : List Char :=
  let t := threshold k bias
  if n < t then [digit n]
  else digit (t + (n - t) % (36 - t)) :: digits bias (k + 36) ((n - t) / (36 - t))
termination_by n
decreasing_by
  have positive := threshold_pos k bias
  exact Nat.lt_of_le_of_lt (Nat.div_le_self _ _) (by omega)

structure Progress where
  written : List Char
  delta : Nat
  bias : Nat
  handled : Nat

/-- Looks at one character while the code point `point` is being written. -/
def scan (basic point : Nat) (progress : Progress) (c : Char) : Progress :=
  if c.toNat < point then { progress with delta := progress.delta + 1 }
  else if c.toNat = point then
    { written := progress.written ++ digits progress.bias 36 progress.delta
      delta := 0
      bias := adapt progress.delta (progress.handled + 1) (progress.handled == basic)
      handled := progress.handled + 1 }
  else progress

/-- Writes the code points in ascending order; `next` is the least one not looked at. -/
def writePoints (label : List Char) (basic : Nat) : List Nat → Nat → Progress → Progress
  | [], _, progress => progress
  | point :: points, next, progress =>
    let moved := { progress with
      delta := progress.delta + (point - next) * (progress.handled + 1) }
    let scanned := label.foldl (scan basic point) moved
    writePoints label basic points (point + 1) { scanned with delta := scanned.delta + 1 }

def isAscii (c : Char) : Bool := c.toNat < 0x80

/-- The code points beyond ASCII, each once, in ascending order. -/
def points (label : List Char) : List Nat :=
  ((label.filter fun c => !isAscii c).map Char.toNat).mergeSort.eraseDups

def encode (label : List Char) : List Char :=
  let basic := label.filter isAscii
  let start := if basic.isEmpty then [] else basic ++ ['-']
  (writePoints label basic.length (points label) 128
    { written := start, delta := 0, bias := 72, handled := basic.length }).written

/-! ## Reading -/

def digitValue? (c : Char) : Option Nat :=
  if 'a' ≤ c && c ≤ 'z' then some (c.toNat - 0x61)
  else if c.isDigit then some (c.toNat - 0x16)
  else none

/-- A difference at the start of a text, times `weight`, and what follows it. -/
def readDifference (bias : Nat) : (k weight : Nat) → List Char → Option (Nat × List Char)
  | _, _, [] => none
  | k, weight, c :: rest => do
    let value ← digitValue? c
    let t := threshold k bias
    if value < t then some (value * weight, rest)
    else
      let (more, rest) ← readDifference bias (k + 36) ((36 - t) * weight) rest
      some (value * weight + more, rest)

/-- A label that is put together: where the count of code points and places goes on. -/
structure Assembly where
  point : Nat := 128
  place : Nat := 0
  bias : Nat := 72
  done : List Char

/-- Puts in the character at a distance; places are counted for one code point after the other. -/
def Assembly.putIn? (assembly : Assembly) (difference : Nat) : Option Assembly :=
  let count := assembly.done.length + 1
  let ahead := assembly.place + difference
  let point := assembly.point + ahead / count
  if point.isValidChar then
    some {
      point
      place := ahead % count + 1
      bias := adapt difference count (assembly.place == 0)
      done := assembly.done.insertIdx (ahead % count) (Char.ofNat point) }
  else none

/-- Reads differences; `fuel` is the length of the text. -/
def readPoints : (fuel : Nat) → Assembly → List Char → Option (List Char)
  | _, assembly, [] => some assembly.done
  | 0, _, _ => none
  | fuel + 1, assembly, text => do
    let (difference, rest) ← readDifference assembly.bias 36 1 text
    readPoints fuel (← assembly.putIn? difference) rest

/-- The ASCII characters of a label, and the differences behind the last hyphen; without characters
in front of it a hyphen separates nothing. -/
def splitEncoded (text : List Char) : List Char × List Char :=
  let differences := (text.reverse.takeWhile (· != '-')).reverse
  match text.take (text.length - differences.length - 1) with
  | [] => ([], text)
  | basic => (basic, differences)

def decode? (text : List Char) : Option (List Char) :=
  let (basic, differences) := splitEncoded text
  readPoints differences.length { done := basic } differences

end DebugBridge.Url.Punycode
