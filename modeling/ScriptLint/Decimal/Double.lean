/-!
# Double-precision numbers

A `Double` is a binary fraction of at most 53 significant bits, exactly as it is stored: a
mantissa times a power of two. `Double.ofDecimal` reads a decimal number to the nearest double, a
tie going to the even mantissa. All arithmetic is on natural numbers.
-/

namespace ScriptLint

/-- A floating-point number of double precision. A finite one is `mantissa · 2 ^ exponent`, where
the mantissa has 53 bits, or fewer at the least exponent. -/
inductive Double where
  | nan
  | infinite (negative : Bool)
  | finite (negative : Bool) (mantissa : Nat) (exponent : Int)
deriving Repr, DecidableEq

namespace Double

/-- The least exponent of a double. -/
def minExponent : Int := -1074

/-- The greatest exponent of a double. -/
def maxExponent : Int := 971

/-- The quotient rounded to the nearest integer, a tie to the even one. -/
def roundQuotient (num den : Nat) : Nat :=
  let q := num / den
  let r := num % den
  if 2 * r < den then q
  else if 2 * r > den then q + 1
  else q + q % 2

/-- The fraction `num / den` divided by `2 ^ e`, as a fraction. -/
def scaleDown (num den : Nat) (e : Int) : Nat × Nat :=
  if e ≥ 0 then (num, den * Nat.pow 2 e.toNat) else (num * Nat.pow 2 (-e).toNat, den)

/-- The exponent for which a positive fraction has a 53-bit mantissa, but at least the least
exponent. -/
def exponentFor (num den : Nat) : Int :=
  let e : Int := (num.log2 : Int) - (den.log2 : Int) - 52
  let (n, d) := scaleDown num den e
  max minExponent (if n < d * Nat.pow 2 52 then e - 1 else e)

/-- The double nearest to a fraction. -/
def ofRatio (negative : Bool) (num den : Nat) : Double :=
  if num = 0 then .finite negative 0 minExponent
  else
    let e := exponentFor num den
    let (n, d) := scaleDown num den e
    let m := roundQuotient n d
    let (m, e) := if m = Nat.pow 2 53 then (Nat.pow 2 52, e + 1) else (m, e)
    if e > maxExponent then .infinite negative else .finite negative m e

/-- The double nearest to `digits · 10 ^ exponent`. Numbers far outside the range are settled by
their size alone. -/
def ofDecimal (negative : Bool) (digits : Nat) (exponent : Int) : Double :=
  let size : Int := (Nat.toDigits 10 digits).length
  if digits = 0 || size + exponent < -330 then .finite negative 0 minExponent
  else if size + exponent > 310 then .infinite negative
  else if exponent ≥ 0 then ofRatio negative (digits * Nat.pow 10 exponent.toNat) 1
  else ofRatio negative digits (Nat.pow 10 (-exponent).toNat)

end Double

end ScriptLint
