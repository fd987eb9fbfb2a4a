import DebugBridge.Text.Ranges

/-!
# Tables of code points

A table is written as a text of words, with all numbers in hexadecimal digits.  A table of ranges
has words `first-last`, or a single code point.  A table of entries has words `code:numbers`,
`first-last:numbers` and `first-last/stride:numbers`, with points between the numbers; a number with
a star goes along with the code point.  A word without a colon is for the code point behind the last
one.
-/

namespace DebugBridge.Text

/-- The stretches of a text between its marks. -/
def stretches (isMark : Char → Bool) (text : List Char) : List (List Char) :=
  (text.splitBy fun a b => !isMark a && !isMark b).filter fun stretch => !stretch.any isMark

def words (text : String) : List (List Char) := stretches Char.isWhitespace text.toList

/-- What stands before the first mark, and what stands behind it. -/
def cut (mark : Char) (text : List Char) : List Char × List Char :=
  (text.takeWhile (· != mark), (text.dropWhile (· != mark)).tail)

def hexNumber (digits : List Char) : Nat :=
  digits.foldl (fun number c =>
    16 * number + (if c.isDigit then c.toNat - '0'.toNat else c.toNat - 'a'.toNat + 10)) 0

/-- The first and the last of a range, which may be a single code point. -/
def readRange (word : List Char) : Nat × Nat :=
  match cut '-' word with
  | (code, []) => (hexNumber code, hexNumber code)
  | (first, last) => (hexNumber first, hexNumber last)

def rangesOf (text : String) : List (Nat × Nat) := (words text).map readRange

/-- What a table says of the code points from `first` to `last` in steps of `stride`: numbers, and
whether they go along with the code point. -/
structure TableEntry where
  first : Nat
  last : Nat
  stride : Nat := 1
  numbers : List (Nat × Bool)

abbrev Table := List TableEntry

def readNumbers (text : List Char) : List (Nat × Bool) :=
  (stretches (· == '.') text).map fun number => (hexNumber (cut '*' number).1, number.contains '*')

/-- The entry of a word; `next` is the code point behind the last entry. -/
def readEntry (next : Nat) (word : List Char) : TableEntry :=
  if word.contains ':' then
    let (codes, numbers) := cut ':' word
    let (range, stride) := cut '/' codes
    let (first, last) := readRange range
    { first, last, stride := max 1 (hexNumber stride), numbers := readNumbers numbers }
  else { first := next, last := next, numbers := readNumbers word }

def readEntries : (next : Nat) → List (List Char) → Table
  | _, [] => []
  | next, word :: words =>
    let entry := readEntry next word
    entry :: readEntries (entry.last + 1) words

def tableOf (text : String) : Table := readEntries 0 (words text)

namespace TableEntry

def numbersAt (entry : TableEntry) (code : Nat) : List Nat :=
  entry.numbers.map fun (number, moves) => if moves then number + (code - entry.first) else number

def covers (entry : TableEntry) (code : Nat) : Bool :=
  entry.first ≤ code && code ≤ entry.last && (code - entry.first) % entry.stride == 0

/-- The code points of an entry, and what it says of each. -/
def listed (entry : TableEntry) : List (Nat × List Nat) :=
  (List.range ((entry.last - entry.first) / entry.stride + 1)).map fun index =>
    let code := entry.first + entry.stride * index
    (code, entry.numbersAt code)

end TableEntry

/-- What a table says of a code point, if it says anything. -/
def Table.at? (table : Table) (code : Nat) : Option (List Nat) :=
  (table.find? fun entry => entry.covers code).map fun entry => entry.numbersAt code

end DebugBridge.Text
