import DebugBridge.Decimal.Rounding
import DebugBridge.Json.Failure
import DebugBridge.Json.Value
import DebugBridge.Text.Utf8

/-!
# Lexemes of JSON texts

The leaves of the grammar on a list of bytes: blanks, the literal names, numbers and strings.  Each
reader returns what is left.  Numbers are integers while they fit into 64 bits; others are computed
in binary64 from the leading digits that fit and a power of ten, in one multiplication or division
for moderate exponents.
-/

namespace DebugBridge.Json

def quoteMark : UInt8 := 0x22
def comma : UInt8 := 0x2c
def minus : UInt8 := 0x2d
def colon : UInt8 := 0x3a
def openBracket : UInt8 := 0x5b
def backslash : UInt8 := 0x5c
def closeBracket : UInt8 := 0x5d
def openBrace : UInt8 := 0x7b
def closeBrace : UInt8 := 0x7d

abbrev Result (α : Type) := Except Failure (α × List UInt8)

def isBlank (b : UInt8) : Bool := b == 0x20 || b == 0x0a || b == 0x09 || b == 0x0d

def skipBlanks (input : List UInt8) : List UInt8 := input.dropWhile isBlank

/-- Reads the rest of a literal name. -/
def readIdent : List UInt8 → List UInt8 → Result Unit
  | [], input => .ok ((), input)
  | _ :: _, [] => .error (.brokenAt .eofValue 0)
  | expected :: more, b :: rest =>
    if b = expected then readIdent more rest else .error (.brokenAt .expectedIdent rest.length)

/-- What follows the first letter of `null`, `true` and `false`. -/
def afterN : List UInt8 := [0x75, 0x6c, 0x6c]
def afterT : List UInt8 := [0x72, 0x75, 0x65]
def afterF : List UInt8 := [0x61, 0x6c, 0x73, 0x65]

/-! ## Numbers -/

def isDigit (b : UInt8) : Bool := 0x30 ≤ b && b ≤ 0x39

def digitValue (b : UInt8) : Nat := b.toNat - 0x30

def isExponentMark (b : UInt8) : Bool := b == 0x65 || b == 0x45

/-- Appends digits to a number while it fits into 64 bits; returns the digits left over. -/
def absorb (number : Nat) : List UInt8 → Nat × List UInt8
  | [] => (number, [])
  | d :: digits =>
    if number * 10 + digitValue d < 0x10000000000000000 then
      absorb (number * 10 + digitValue d) digits
    else (number, d :: digits)

/-- A power of ten as a binary64 number, for exponents up to 308. -/
def powerOfTen (exponent : Nat) : Binary64 := .ofNat (Nat.pow 10 exponent)

/-- `x * 10 ^ exponent`, or nothing when it is too large. -/
def scale (x : Binary64) (exponent : Int) : Nat → Option Binary64
  | 0 => some x
  | steps + 1 =>
    if exponent.natAbs ≤ 308 then
      if 0 ≤ exponent then
        let scaled := x.times (powerOfTen exponent.natAbs)
        if scaled.isFinite then some scaled else none
      else some (x.dividedBy (powerOfTen exponent.natAbs))
    else if x = .zero then some x
    else if 0 ≤ exponent then none
    else scale (x.dividedBy (powerOfTen 308)) (exponent + 308) steps

/-- The number `± significand * 10 ^ exponent`. -/
def readFloat (positive : Bool) (significand : Nat) (exponent : Int) (rest : List UInt8) :
    Result Number :=
  match scale (.ofNat significand) exponent 4 with
  | none => .error (.brokenAt .numberOutOfRange rest.length)
  | some x => .ok (.float (if positive then x else x.negate), rest)

/-- The digits of an exponent after the first, up to 31 bits. -/
def readExponentDigits (positive zero positiveExponent : Bool) (exponent : Nat) :
    List UInt8 → Except Failure (Option Nat × List UInt8)
  | [] => .ok (some exponent, [])
  | b :: rest =>
    if !isDigit b then .ok (some exponent, b :: rest)
    else if exponent * 10 + digitValue b < 0x80000000 then
      readExponentDigits positive zero positiveExponent (exponent * 10 + digitValue b) rest
    else if !zero && positiveExponent then .error (.brokenAt .numberOutOfRange rest.length)
    else .ok (none, rest.dropWhile isDigit)

/-- An exponent, from behind its sign.  One of more than 31 bits makes the number zero. -/
def readUnsignedExponent (positive : Bool) (significand : Nat) (start : Int)
    (positiveExponent : Bool) : List UInt8 → Result Number
  | [] => .error (.brokenAt .eofValue 0)
  | b :: rest =>
    if !isDigit b then .error (.brokenAt .invalidNumber rest.length)
    else
      match readExponentDigits positive (significand == 0) positiveExponent (digitValue b) rest with
      | .error failure => .error failure
      | .ok (none, rest) => .ok (.float (if positive then .zero else .negate .zero), rest)
      | .ok (some exponent, rest) =>
        readFloat positive significand
          (if positiveExponent then start + exponent else start - exponent) rest

/-- An exponent, from behind its mark. -/
def readExponent (positive : Bool) (significand : Nat) (start : Int) :
    List UInt8 → Result Number
  | 0x2b :: rest => readUnsignedExponent positive significand start true rest
  | 0x2d :: rest => readUnsignedExponent positive significand start false rest
  | input => readUnsignedExponent positive significand start true input

/-- A fraction, from behind its point. -/
def readFraction (positive : Bool) (significand : Nat) (start : Int) (input : List UInt8) :
    Result Number :=
  let digits := input.takeWhile isDigit
  let rest := input.dropWhile isDigit
  if digits.isEmpty then
    match rest with
    | [] => .error (.brokenAt .eofValue 0)
    | _ => .error (.onNext .invalidNumber rest)
  else
    let (significand, dropped) := absorb significand digits
    let exponent := start - (digits.length - dropped.length : Nat)
    match rest with
    | b :: tail =>
      if isExponentMark b then readExponent positive significand exponent tail
      else readFloat positive significand exponent rest
    | [] => readFloat positive significand exponent rest

/-- A number without fraction and exponent. -/
def integer (positive : Bool) (significand : Nat) : Number :=
  if positive then .int significand
  else if significand = 0 ∨ 0x8000000000000000 < significand then
    .float (.negate (.ofNat significand))
  else .int (-significand)

/-- What follows the integer part, of which `dropped` digits did not fit. -/
def readNumberTail (positive : Bool) (significand : Nat) (dropped : Nat) (rest : List UInt8) :
    Result Number :=
  match rest with
  | b :: tail =>
    if b = 0x2e then readFraction positive significand dropped tail
    else if isExponentMark b then readExponent positive significand dropped tail
    else if dropped = 0 then .ok (integer positive significand, rest)
    else readFloat positive significand dropped rest
  | [] =>
    if dropped = 0 then .ok (integer positive significand, rest)
    else readFloat positive significand dropped rest

/-- A number, from behind its sign. -/
def readNumber (positive : Bool) (input : List UInt8) : Result Number :=
  match input with
  | [] => .error (.brokenAt .eofValue 0)
  | b :: rest =>
    if b = 0x30 then
      if rest.head?.any isDigit then .error (.onNext .invalidNumber rest)
      else readNumberTail positive 0 0 rest
    else if isDigit b then
      let (significand, dropped) := absorb 0 (input.takeWhile isDigit)
      readNumberTail positive significand dropped.length (input.dropWhile isDigit)
    else .error (.brokenAt .invalidNumber rest.length)

/-! ## Strings -/

def hexValue? (b : UInt8) : Option Nat :=
  if isDigit b then some (b.toNat - 0x30)
  else if 0x61 ≤ b && b ≤ 0x66 then some (b.toNat - 0x57)
  else if 0x41 ≤ b && b ≤ 0x46 then some (b.toNat - 0x37)
  else none

/-- The number with these hexadecimal digits, the last one first. -/
def hexNumber? : List UInt8 → Option Nat
  | [] => some 0
  | d :: digits => do
    let high ← hexNumber? digits
    let low ← hexValue? d
    return high * 16 + low

/-- The byte that a one-letter escape stands for. -/
def simpleEscape? (b : UInt8) : Option UInt8 :=
  if b = quoteMark || b = backslash || b = 0x2f then some b
  else if b = 0x62 then some 0x08
  else if b = 0x66 then some 0x0c
  else if b = 0x6e then some 0x0a
  else if b = 0x72 then some 0x0d
  else if b = 0x74 then some 0x09
  else none

/-- Where the reader is inside a string.  `high` is a leading surrogate that waits for its other
half; hexadecimal digits are kept last first. -/
inductive StringState
  | plain
  | escape
  | hex (high : Option Nat) (digits : List UInt8)
  | afterHigh (high : Nat)
  | afterHighEscape (high : Nat)

/-- A string, from behind its opening quote; `read` holds the bytes of its value, last first.  Its
bytes are checked once the closing quote is in sight, which does not count as read then. -/
def readStringFrom : StringState → List UInt8 → List UInt8 → Result String
  | _, _, [] => .error (.brokenAt .eofString 0)
  | .plain, read, b :: rest =>
    if b = quoteMark then
      match Text.decodeUtf8? read.reverse with
      | some value => .ok (value, rest)
      | none => .error (.brokenAt .invalidUnicode (rest.length + 1))
    else if b = backslash then readStringFrom .escape read rest
    else if b < 0x20 then .error (.brokenAt .controlCharacter rest.length)
    else readStringFrom .plain (b :: read) rest
  | .escape, read, b :: rest =>
    if b = 0x75 then readStringFrom (.hex none []) read rest
    else match simpleEscape? b with
      | some meant => readStringFrom .plain (meant :: read) rest
      | none => .error (.brokenAt .invalidEscape rest.length)
  | .hex high digits, read, b :: rest =>
    if digits.length < 3 then readStringFrom (.hex high (b :: digits)) read rest
    else match hexNumber? (b :: digits), high with
      | none, _ => .error (.brokenAt .invalidEscape rest.length)
      | some unit, none =>
        if 0xdc00 ≤ unit && unit ≤ 0xdfff then .error (.brokenAt .loneSurrogate rest.length)
        else if 0xd800 ≤ unit && unit ≤ 0xdbff then readStringFrom (.afterHigh unit) read rest
        else
          readStringFrom .plain
            ((Text.encodeUtf8 (String.singleton (Char.ofNat unit))).reverse ++ read) rest
      | some unit, some high =>
        if 0xdc00 ≤ unit && unit ≤ 0xdfff then
          let code := (high - 0xd800) * 0x400 + (unit - 0xdc00) + 0x10000
          readStringFrom .plain
            ((Text.encodeUtf8 (String.singleton (Char.ofNat code))).reverse ++ read) rest
        else .error (.brokenAt .loneSurrogate rest.length)
  | .afterHigh high, read, b :: rest =>
    if b = backslash then readStringFrom (.afterHighEscape high) read rest
    else .error (.brokenAt .unexpectedEndOfHexEscape rest.length)
  | .afterHighEscape high, read, b :: rest =>
    if b = 0x75 then readStringFrom (.hex (some high) []) read rest
    else .error (.brokenAt .unexpectedEndOfHexEscape rest.length)

/-- A string, from behind its opening quote. -/
def readString (input : List UInt8) : Result String := readStringFrom .plain [] input

end DebugBridge.Json
