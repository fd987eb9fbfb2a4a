import DebugBridge.Decimal.Binary64

/-!
# Rounding decimals

The binary64 number nearest to a decimal, the even one on a tie, and the arithmetic of magnitudes:
a product or quotient is the exact one, rounded once.
-/

namespace DebugBridge.Binary64

def ofFields (negative : Bool) (exponent fraction : Nat) : Binary64 :=
  ⟨(if negative then (0x8000000000000000 : UInt64) else 0) ||| (exponent.toUInt64 <<< 52)
    ||| fraction.toUInt64⟩

def infinity (negative : Bool) : Binary64 := ofFields negative 0x7ff 0

def notANumber : Binary64 := ofFields false 0x7ff 0x8000000000000

/-- The fraction `n / d`, rounded to the nearest integer, the even one on a tie. -/
def roundQuotient (n d : Nat) : Nat :=
  let floor := n / d
  let twice := 2 * (n % d)
  if twice < d then floor
  else if d < twice then floor + 1
  else if floor % 2 = 0 then floor else floor + 1

/-- The number `m * 2 ^ q`, where `m` is at most `2 ^ 53`. -/
def ofScaled (negative : Bool) (m : Nat) (q : Int) : Binary64 :=
  let (m, q) := if m = 0x20000000000000 then (0x10000000000000, q + 1) else (m, q)
  if m < 0x10000000000000 then ofFields negative 0 m
  else if 971 < q then infinity negative
  else ofFields negative (q + 1075).toNat (m - 0x10000000000000)

/-- The number nearest to `n / d`. -/
def ofRatio (negative : Bool) (n d : Nat) : Binary64 :=
  let order : Int := (n.log2 : Int) - d.log2
  let q : Int := max (order - 53) (-1074)
  let scaled (q : Int) : Nat × Nat := (n * powUp 2 (-q), d * powUp 2 q)
  let (top, bottom) := scaled q
  if top / bottom < 0x20000000000000 then ofScaled negative (roundQuotient top bottom) q
  else
    let (top, bottom) := scaled (q + 1)
    ofScaled negative (roundQuotient top bottom) (q + 1)

def zero : Binary64 := ⟨0⟩

def ofNat (n : Nat) : Binary64 := ofRatio false n 1

def negate (x : Binary64) : Binary64 := ⟨x.bits ^^^ 0x8000000000000000⟩

/-- The product of the magnitudes. -/
def times (x y : Binary64) : Binary64 :=
  match x.magnitude, y.magnitude with
  | .finite m q, .finite n r => ofRatio false (m * n * powUp 2 (q + r)) (powUp 2 (-(q + r)))
  | _, _ => infinity false

/-- The quotient of the magnitudes; the divisor is not zero. -/
def dividedBy (x y : Binary64) : Binary64 :=
  match x.magnitude, y.magnitude with
  | .finite m q, .finite n r => ofRatio false (m * powUp 2 (q - r)) (n * powUp 2 (r - q))
  | _, _ => infinity false

/-- The number nearest to `digits * 10 ^ exponent`. -/
def ofDecimal (negative : Bool) (digits : Nat) (exponent : Int) : Binary64 :=
  let order : Int := (toString digits).length + exponent
  if digits = 0 || order < -400 then ofFields negative 0 0
  else if 400 < order then infinity negative
  else ofRatio negative (digits * powUp 10 exponent) (powUp 10 (-exponent))

end DebugBridge.Binary64
