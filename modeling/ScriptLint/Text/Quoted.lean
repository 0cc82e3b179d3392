import ScriptLint.Text.Printable

/-!
# Numbers and quoted text in messages

Numbers are written in decimal, and codes of characters in hexadecimal digits of a fixed width.

A message shows a text between quotes, so that its ends and its invisible characters can be seen.
Single quotes are used unless the text holds one and no double quote. The active quote, the
backslash and the usual controls are escaped by a backslash, and every other character that is not
printable is written by its code in two, four or eight hexadecimal digits.
-/

namespace ScriptLint

/-- The decimal digits of a natural number. -/
def natText (n : Nat) : List Char := Nat.toDigits 10 n

/-- The decimal text of an integer, with a minus sign if it is negative. -/
def intText : Int → List Char
  | .ofNat n => natText n
  | .negSucc n => '-' :: natText (n + 1)

/-- The decimal text of a natural number, as a string. -/
def showNat (n : Nat) : String := String.ofList (natText n)

/-- Different numbers have different texts. -/
theorem showNat_inj {m n : Nat} (h : showNat m = showNat n) : m = n := by
  have hdigits := congrArg (Nat.ofDigitChars 10 · 0) (String.ofList_injective h)
  simpa only [natText, Nat.ofDigitChars_ten_toDigits] using hdigits

/-- The decimal text of an integer, as a string. -/
def showInt (n : Int) : String := String.ofList (intText n)

/-- The hexadecimal digits of a number in lower case, with leading zeros up to `width`. -/
def hexText (width n : Nat) : List Char :=
  let digits := Nat.toDigits 16 n
  List.replicate (width - digits.length) '0' ++ digits

/-- The mark of single quotes. -/
def apostrophe : Char := '\x27'

/-- The quote that surrounds a text: double quotes only where they save escapes. -/
def activeQuote (cs : List Char) : Char :=
  if cs.contains apostrophe && !cs.contains '"' then '"' else apostrophe

/-- A character by its code, in the shortest of the three widths. -/
def codeEscape (c : Char) : List Char :=
  let n := c.toNat
  if n < 0x100 then '\\' :: 'x' :: hexText 2 n
  else if n < 0x10000 then '\\' :: 'u' :: hexText 4 n
  else '\\' :: 'U' :: hexText 8 n

/-- A character as it appears between quotes of the given kind. -/
def escapeChar (quote c : Char) : List Char :=
  if c = quote || c = '\\' then ['\\', c]
  else if c = '\n' then ['\\', 'n']
  else if c = '\r' then ['\\', 'r']
  else if c = '\t' then ['\\', 't']
  else if isPrintable c then [c]
  else codeEscape c

/-- A text between quotes. -/
def quoted (cs : List Char) : List Char :=
  let quote := activeQuote cs
  quote :: cs.flatMap (escapeChar quote) ++ [quote]

/-- A string between quotes. -/
def showQuoted (s : String) : String := String.ofList (quoted s.toList)

end ScriptLint
