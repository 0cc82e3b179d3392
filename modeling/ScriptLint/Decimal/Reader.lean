import ScriptLint.Decimal.Double

/-!
# Reading numbers

`Numeral` is the shape of a number in text: a sign, digits, and perhaps a fraction and an exponent.
`Numeral.scan?` takes the longest one at the front of a text, and `Double.ofText?` reads a whole
text as a double.
-/

namespace ScriptLint

/-- The parts of a number in text. -/
structure Numeral where
  negative : Bool
  whole : List Char
  fraction : Option (List Char)
  exponent : Option (Bool × List Char)
deriving Repr, DecidableEq

/-- The value of decimal digits. -/
def digitsValue (digits : List Char) : Nat :=
  digits.foldl (fun n d => 10 * n + (d.toNat - '0'.toNat)) 0

namespace Numeral

/-- Whether the number has neither a fraction nor an exponent. -/
def isWhole (n : Numeral) : Bool := n.fraction.isNone && n.exponent.isNone

/-- The integer that the sign and the whole part give. -/
def toInt (n : Numeral) : Int :=
  if n.negative then -(digitsValue n.whole : Int) else digitsValue n.whole

/-- The power of ten that the exponent part gives. -/
def power (n : Numeral) : Int :=
  match n.exponent with
  | none => 0
  | some (negative, digits) => if negative then -(digitsValue digits : Int) else digitsValue digits

/-- The double nearest to the number. -/
def toDouble (n : Numeral) : Double :=
  let fraction := n.fraction.getD []
  Double.ofDecimal n.negative (digitsValue (n.whole ++ fraction)) (n.power - fraction.length)

/-- A minus sign at the front of a text, and the rest. -/
def scanMinus : List Char → Bool × List Char
  | '-' :: cs => (true, cs)
  | cs => (false, cs)

/-- A sign at the front of a text, and the rest. -/
def scanSign : List Char → Bool × List Char
  | '-' :: cs => (true, cs)
  | '+' :: cs => (false, cs)
  | cs => (false, cs)

/-- A point with digits at the front of a text, and the rest. -/
def scanFraction : List Char → Option (List Char) × List Char
  | '.' :: cs =>
    let digits := cs.takeWhile Char.isDigit
    if digits.isEmpty then (none, '.' :: cs) else (some digits, cs.dropWhile Char.isDigit)
  | cs => (none, cs)

/-- An exponent at the front of a text, and the rest. -/
def scanExponent : List Char → Option (Bool × List Char) × List Char
  | [] => (none, [])
  | c :: cs =>
    let (negative, rest) := scanSign cs
    let digits := rest.takeWhile Char.isDigit
    if (c == 'e' || c == 'E') && !digits.isEmpty then
      (some (negative, digits), rest.dropWhile Char.isDigit)
    else (none, c :: cs)

/-- The whole part of a number: a zero, or digits that do not start with one. -/
def scanWhole : List Char → Option (List Char × List Char)
  | '0' :: cs => some (['0'], cs)
  | cs =>
    let digits := cs.takeWhile Char.isDigit
    if digits.isEmpty then none else some (digits, cs.dropWhile Char.isDigit)

/-- The longest number at the front of a text, and the rest. -/
def scan? (cs : List Char) : Option (Numeral × List Char) :=
  let (negative, cs) := scanMinus cs
  match scanWhole cs with
  | none => none
  | some (whole, cs) =>
    let (fraction, cs) := scanFraction cs
    let (exponent, cs) := scanExponent cs
    some (⟨negative, whole, fraction, exponent⟩, cs)

end Numeral

namespace Double

/-- The double with a sign before it. -/
def withSign (negative : Bool) : Double → Double
  | .nan => .nan
  | .infinite _ => .infinite negative
  | .finite _ mantissa exponent => .finite negative mantissa exponent

/-- Digits with a point among them, behind them or before them. -/
def readDigits? (cs : List Char) : Option (Numeral × List Char) :=
  let whole := cs.takeWhile Char.isDigit
  let rest := cs.dropWhile Char.isDigit
  let (fraction, rest) :=
    match rest with
    | '.' :: more => (more.takeWhile Char.isDigit, more.dropWhile Char.isDigit)
    | _ => ([], rest)
  if whole.isEmpty && fraction.isEmpty then none
  else
    let (exponent, rest) := Numeral.scanExponent rest
    some (⟨false, whole, some fraction, exponent⟩, rest)

/-- Reads a whole text as a double: a sign, then digits with an optional point and exponent, or a
word for infinity or for no number. -/
def ofText? (cs : List Char) : Option Double :=
  let (negative, cs) := Numeral.scanSign cs
  let word := String.ofList (cs.map Char.toLower)
  if word = "nan" then some .nan
  else if word = "inf" || word = "infinity" then some (.infinite negative)
  else
    match readDigits? cs with
    | some (n, []) => some (n.toDouble.withSign negative)
    | _ => none

end Double

end ScriptLint
