import ScriptLint.Decimal.Double
import ScriptLint.Text.Quoted

/-!
# Shortest decimal text

A double is written with the fewest digits that read back as the same double. The reals that read
back as it form an interval around it. The coarsest decimal grid with a point in this interval
gives the fewest digits; of two points the nearer one is taken, and of two at the same distance
the even one.

`Double.text` lays the digits out: positionally from `0.0001` up to below `10 ^ 16`, always with a
point, and otherwise with an exponent of at least two digits.
-/

namespace ScriptLint

/-- A decimal number `digits · 10 ^ exponent`. -/
structure Decimal where
  digits : Nat
  exponent : Int
deriving Repr, DecidableEq

namespace Double

/-- The reals that round to a positive double, in quarters of its last place: the double itself,
the lower and the upper end. The lower end is nearer where the mantissa is a power of two. -/
def interval (mantissa : Nat) (exponent : Int) : Nat × Nat × Nat :=
  let value := 4 * mantissa
  let below := if mantissa = Nat.pow 2 52 && exponent > minExponent then 1 else 2
  (value, value - below, value + 2)

/-- The unit of the interval and that of the grid `10 ^ p`, as whole multiples of a common unit. -/
def gridUnits (exponent p : Int) : Nat × Nat :=
  let two := exponent - 2
  (Nat.pow 2 two.toNat * Nat.pow 10 (-p).toNat, Nat.pow 10 p.toNat * Nat.pow 2 (-two).toNat)

/-- The best point of the grid `10 ^ p` that reads back as the double, if there is one. The ends of
the interval belong to it when the mantissa is even. -/
def onGrid? (mantissa : Nat) (exponent p : Int) : Option Decimal :=
  let (unit, grid) := gridUnits exponent p
  let (value, low, high) := interval mantissa exponent
  let (value, low, high) := (value * unit, low * unit, high * unit)
  let even := mantissa % 2 == 0
  let inside (k : Nat) : Bool :=
    if even then low ≤ k * grid && k * grid ≤ high else low < k * grid && k * grid < high
  let q := value / grid
  let r := value % grid
  match inside q, inside (q + 1) with
  | false, false => none
  | true, false => some ⟨q, p⟩
  | false, true => some ⟨q + 1, p⟩
  | true, true =>
    if 2 * r < grid then some ⟨q, p⟩
    else if 2 * r > grid then some ⟨q + 1, p⟩
    else some ⟨q + q % 2, p⟩

/-- Tries the grids from `10 ^ p` down. -/
def searchGrids (mantissa : Nat) (exponent : Int) : (grids : Nat) → (p : Int) → Decimal
  | 0, p => ⟨0, p⟩
  | grids + 1, p =>
    match onGrid? mantissa exponent p with
    | some d => d
    | none => searchGrids mantissa exponent grids (p - 1)

/-- The shortest decimal that reads back as a positive double. The grids reach from above the
greatest double to below the least one. -/
def shortest (mantissa : Nat) (exponent : Int) : Decimal :=
  searchGrids mantissa exponent 660 310

end Double

namespace Decimal

/-- Whether a number whose point stands behind its first `point` digits is written positionally. -/
def isPositional (point : Int) : Bool := -4 < point && point ≤ 16

/-- An exponent with its sign and at least two digits. -/
def exponentText (e : Int) : List Char :=
  let digits := natText e.natAbs
  (if e < 0 then '-' else '+') :: List.replicate (2 - digits.length) '0' ++ digits

/-- Digits with a point behind the first `point` of them, filled up with zeros. -/
def positionalText (digits : List Char) (point : Int) : List Char :=
  if point ≤ 0 then '0' :: '.' :: List.replicate (-point).toNat '0' ++ digits
  else if digits.length ≤ point.toNat then
    digits ++ List.replicate (point.toNat - digits.length) '0' ++ ['.', '0']
  else digits.take point.toNat ++ '.' :: digits.drop point.toNat

/-- Digits with an exponent. -/
def scientificText (digits : List Char) (point : Int) : List Char :=
  let mantissa :=
    match digits with
    | [] => []
    | [d] => [d]
    | d :: ds => d :: '.' :: ds
  mantissa ++ 'e' :: exponentText (point - 1)

/-- The text of a decimal number. -/
def text (d : Decimal) : List Char :=
  let digits := natText d.digits
  let point : Int := digits.length + d.exponent
  if isPositional point then positionalText digits point else scientificText digits point

end Decimal

/-- The text of a double. -/
def Double.text : Double → List Char
  | .nan => "nan".toList
  | .infinite negative => (if negative then "-inf" else "inf").toList
  | .finite negative mantissa exponent =>
    (if negative then ['-'] else []) ++
      if mantissa = 0 then "0.0".toList else (Double.shortest mantissa exponent).text

end ScriptLint
