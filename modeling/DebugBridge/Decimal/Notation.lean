import DebugBridge.Decimal.Binary64

/-!
# Writing binary64 numbers

Two written forms of the shortest decimal.  `compact` is the form of JSON texts: positional while
the decimal point stands within sixteen places to the right of the first digit and within four
zeros to the left of it, scientific otherwise, and never without a fraction in positional form.
`positional` writes every digit out.
-/

namespace DebugBridge.Binary64

def zeros (n : Nat) : String := String.ofList (List.replicate n '0')

/-- Digits with a point after the first `point` of them, which may lie outside of them. -/
def pointed (digits : List Char) (point : Int) : String :=
  if point ≤ 0 then "0." ++ zeros point.natAbs ++ String.ofList digits
  else if (digits.length : Int) ≤ point then
    String.ofList digits ++ zeros (point - digits.length).toNat ++ ".0"
  else
    String.ofList (digits.take point.toNat) ++ "." ++ String.ofList (digits.drop point.toNat)

/-- One digit before the point, and a signed exponent only when it is negative or positive. -/
def scientific (digits : List Char) (point : Int) : String :=
  let exponent := point - 1
  let mantissa := match digits with
    | [] => "0"
    | [d] => String.singleton d
    | d :: rest => String.singleton d ++ "." ++ String.ofList rest
  mantissa ++ (if exponent < 0 then "e-" else "e+") ++ toString exponent.natAbs

def sign (x : Binary64) : String := if x.isNegative then "-" else ""

/-- Writes with `layout`, which gets the digits and the place of the point. -/
def writeWith (layout : List Char → Int → String) (x : Binary64) : String :=
  match x.magnitude with
  | .notANumber => "NaN"
  | .infinite => x.sign ++ "inf"
  | .finite 0 _ => x.sign ++ "0.0"
  | .finite m q =>
    let short := shortest m q
    let digits := (toString short.digits).toList
    x.sign ++ layout digits (digits.length + short.exponent)

/-- The form of JSON texts. -/
def compact : Binary64 → String :=
  writeWith fun digits point =>
    if -5 < point ∧ point ≤ 16 then pointed digits point else scientific digits point

/-- All digits, however many. -/
def positional : Binary64 → String := writeWith pointed

end DebugBridge.Binary64
