/-!
# Binary64 numbers by their bits

A double-precision number is kept as its 64-bit pattern, so that equality is decidable and
`-0.0` differs from `0.0`.  The module reads the pattern as a sign and a value `m * 2 ^ q`, and
finds the shortest decimal that reads back as the same number: on the coarsest grid `10 ^ k` that
has a point among the reals rounding to it, the point nearest to it.
-/

namespace DebugBridge

/-- A double-precision number, as its bit pattern. -/
structure Binary64 where
  bits : UInt64
deriving DecidableEq, Inhabited, Repr

namespace Binary64

def isNegative (x : Binary64) : Bool := x.bits >>> 63 != 0

/-- The eleven exponent bits. -/
def exponentField (x : Binary64) : Nat := ((x.bits >>> 52) &&& 0x7ff).toNat

/-- The fifty-two fraction bits. -/
def fractionField (x : Binary64) : Nat := (x.bits &&& 0xfffffffffffff).toNat

/-- What a bit pattern stands for, its sign apart. -/
inductive Magnitude
  | notANumber
  | infinite
  /-- The value `m * 2 ^ q`. -/
  | finite (m : Nat) (q : Int)

def magnitude (x : Binary64) : Magnitude :=
  if x.exponentField = 0x7ff then
    if x.fractionField = 0 then .infinite else .notANumber
  else if x.exponentField = 0 then .finite x.fractionField (-1074)
  else .finite (x.fractionField + 0x10000000000000) ((x.exponentField : Int) - 1075)

def isFinite (x : Binary64) : Bool := x.exponentField != 0x7ff

/-- The reals that round to `m * 2 ^ q`, in quarters of a unit in the last place: from `low / 4`
to `high / 4` units, the ends included when `m` is even.  Below a power of two the neighbour is
half as far away. -/
structure RoundingRange where
  low : Nat
  high : Nat
  closed : Bool

def roundingRange (m : Nat) (q : Int) : RoundingRange :=
  { low := if m = 0x10000000000000 ∧ q ≠ -1074 then 4 * m - 1 else 4 * m - 2
    high := 4 * m + 2
    closed := m % 2 == 0 }

/-- `base ^ e` when `e` is not negative, else one. -/
def powUp (base : Nat) (e : Int) : Nat := if 0 ≤ e then Nat.pow base e.toNat else 1

/-- The point of the grid `10 ^ k` that rounds to `m * 2 ^ q`, nearest to it and even on a tie. -/
def gridPoint (m : Nat) (q k : Int) : Option Nat :=
  let range := roundingRange m q
  let up := powUp 2 (q - 2) * powUp 10 (-k)
  let down := powUp 2 (2 - q) * powUp 10 k
  let inside (c : Nat) : Bool :=
    if range.closed then range.low * up ≤ c * down && c * down ≤ range.high * up
    else range.low * up < c * down && c * down < range.high * up
  let below := 4 * m * up / down
  let above := below + 1
  match inside below, inside above with
  | true, true =>
    let toBelow := 4 * m * up - below * down
    let toAbove := above * down - 4 * m * up
    if toBelow < toAbove then some below
    else if toAbove < toBelow then some above
    else some (if below % 2 = 0 then below else above)
  | true, false => some below
  | false, true => some above
  | false, false => none

/-- A decimal `digits * 10 ^ exponent`. -/
structure Shortest where
  digits : Nat
  exponent : Int

/-- Tries ever finer grids, from `10 ^ k` down. -/
def searchGrids (m : Nat) (q : Int) : Nat → Int → Shortest
  | 0, k => ⟨m, k⟩
  | steps + 1, k =>
    match gridPoint m q k with
    | some c => ⟨c, k⟩
    | none => searchGrids m q steps (k - 1)

/-- The shortest decimal that reads back as `m * 2 ^ q`.  Eighteen grids suffice below the decimal
order of the value, which its binary order bounds. -/
def shortest (m : Nat) (q : Int) : Shortest :=
  let binaryOrder : Int := (m.log2 : Int) + q + 1
  searchGrids m q 25 (binaryOrder * 30103 / 100000 + 2)

end Binary64

end DebugBridge
