import ScriptLint.Decimal.Reader
import ScriptLint.Value.Basic

/-!
# Reading JSON

`Json.read?` reads a whole text as a value. Beyond the standard it takes `NaN`, `Infinity` and
`-Infinity`. White space is space, tab, line feed and carriage return; a control character inside a
string is refused. A number with a fraction or an exponent is a double, any other an integer, of at
most `maxIntDigits` digits. A repeated key keeps its first place and its last value.

Two things that a reader may do otherwise are settled here. Lists and mappings are followed to any
depth, without the limit that a stack would set. And half of a surrogate pair, which is no
character, reads as the replacement character.
-/

namespace ScriptLint

namespace Json

/-- The longest integer that is read. -/
def maxIntDigits : Nat := 4300

/-- White space between the parts of a text. -/
def isSpace (c : Char) : Bool := c == ' ' || c == '\t' || c == '\n' || c == '\r'

/-- A text without its leading white space. -/
def skipSpace (cs : List Char) : List Char := cs.dropWhile isSpace

/-- The value of a hexadecimal digit. -/
def hexDigit? (c : Char) : Option Nat :=
  let n := c.toNat
  if '0' ≤ c && c ≤ '9' then some (n - 48)
  else if 'a' ≤ c && c ≤ 'f' then some (n - 87)
  else if 'A' ≤ c && c ≤ 'F' then some (n - 55)
  else none

/-- Four hexadecimal digits at the front of a text, and the rest. -/
def readUnit? : List Char → Option (Nat × List Char)
  | a :: b :: c :: d :: rest => do
    let a ← hexDigit? a
    let b ← hexDigit? b
    let c ← hexDigit? c
    let d ← hexDigit? d
    return (((a * 16 + b) * 16 + c) * 16 + d, rest)
  | _ => none

/-- The character that a letter behind a backslash stands for. -/
def escaped? : Char → Option Char
  | '"' => some '"'
  | '\\' => some '\\'
  | '/' => some '/'
  | 'b' => some '\x08'
  | 'f' => some '\x0c'
  | 'n' => some '\n'
  | 'r' => some '\r'
  | 't' => some '\t'
  | _ => none

/-- Whether a code unit is the first half of a pair. -/
def isHigh (n : Nat) : Bool := 0xd800 ≤ n && n < 0xdc00

/-- Whether a code unit is the second half of a pair. -/
def isLow (n : Nat) : Bool := 0xdc00 ≤ n && n < 0xe000

/-- The character of a code unit that stands alone. -/
def unitChar (n : Nat) : Char := if isHigh n || isLow n then '\ufffd' else Char.ofNat n

/-- The code unit escape at the front of a text, and the rest. -/
def unitEscape? : List Char → Option (Nat × List Char)
  | '\\' :: 'u' :: cs => readUnit? cs
  | _ => none

/-- The character of a code unit, which takes its second half from the text behind it, and the
rest. -/
def pairedChar (unit : Nat) (cs : List Char) : Char × List Char :=
  match isHigh unit, unitEscape? cs with
  | true, some (low, rest) =>
    if isLow low then (Char.ofNat (0x10000 + (unit - 0xd800) * 0x400 + (low - 0xdc00)), rest)
    else (unitChar unit, cs)
  | _, _ => (unitChar unit, cs)

/-- The next character of a string. -/
inductive StringStep where
  | done (rest : List Char)
  | char (c : Char) (rest : List Char)

/-- Reads one character of a string, or its closing quote. -/
def stringStep? : List Char → Option StringStep
  | [] => none
  | '"' :: rest => some (.done rest)
  | '\\' :: 'u' :: rest =>
    match readUnit? rest with
    | none => none
    | some (unit, rest) =>
      let (c, rest) := pairedChar unit rest
      some (.char c rest)
  | '\\' :: c :: rest => (escaped? c).map fun c => .char c rest
  | c :: rest => if c.toNat < 32 || c = '\\' then none else some (.char c rest)

/-- The contents of a string up to its closing quote, and the rest. Every step takes a character at
least, so the length of the text bounds the number of `steps`. -/
def readString? : (steps : Nat) → List Char → Option (List Char × List Char)
  | 0, _ => none
  | steps + 1, cs =>
    match stringStep? cs with
    | none => none
    | some (.done rest) => some ([], rest)
    | some (.char c rest) => (readString? steps rest).map fun (s, rest) => (c :: s, rest)

/-- The value of a number; an integer that is too long is refused. -/
def numeralValue? (n : Numeral) : Option Value :=
  if !n.isWhole then some (.real n.toDouble)
  else if n.whole.length ≤ maxIntDigits then some (.int n.toInt)
  else none

/-- The words that stand for values. -/
def words : List (String × Value) :=
  [("null", .null), ("true", .bool true), ("false", .bool false), ("NaN", .real .nan),
    ("Infinity", .real (.infinite false)), ("-Infinity", .real (.infinite true))]

/-- A word or a number at the front of a text, and the rest. -/
def readScalar? (cs : List Char) : Option (Value × List Char) :=
  match words.find? fun w => w.1.toList.isPrefixOf cs with
  | some (word, v) => some (v, cs.drop word.length)
  | none =>
    match Numeral.scan? cs with
    | none => none
    | some (n, rest) => (numeralValue? n).map fun v => (v, rest)

mutual

/-- A value at the front of a text, and the rest. Every nested call stands behind a character of
its own, so the length of the text bounds `fuel`. -/
def readValue? : (fuel : Nat) → List Char → Option (Value × List Char)
  | 0, _ => none
  | fuel + 1, cs =>
    match cs with
    | '"' :: rest => (readString? (rest.length + 1) rest).map fun (s, rest) =>
        (.text (String.ofList s), rest)
    | '[' :: rest =>
      match skipSpace rest with
      | ']' :: rest => some (.list [], rest)
      | rest => (readItems? fuel rest).map fun (items, rest) => (.list items, rest)
    | '{' :: rest =>
      match skipSpace rest with
      | '}' :: rest => some (.mapping [], rest)
      | rest => (readEntries? fuel rest).map fun (entries, rest) =>
          (.mapping (Mapping.ofEntries entries), rest)
    | _ => readScalar? cs

/-- The items of a list up to its closing bracket, and the rest. -/
def readItems? : (fuel : Nat) → List Char → Option (List Value × List Char)
  | 0, _ => none
  | fuel + 1, cs =>
    match readValue? fuel cs with
    | none => none
    | some (v, rest) =>
      match skipSpace rest with
      | ']' :: rest => some ([v], rest)
      | ',' :: rest => (readItems? fuel (skipSpace rest)).map fun (vs, rest) => (v :: vs, rest)
      | _ => none

/-- The entries of a mapping up to its closing brace, and the rest. -/
def readEntries? : (fuel : Nat) → List Char → Option (List (String × Value) × List Char)
  | 0, _ => none
  | fuel + 1, cs =>
    match cs with
    | '"' :: rest =>
      match readString? (rest.length + 1) rest with
      | none => none
      | some (key, rest) =>
        match skipSpace rest with
        | ':' :: rest =>
          match readValue? fuel (skipSpace rest) with
          | none => none
          | some (v, rest) =>
            match skipSpace rest with
            | '}' :: rest => some ([(String.ofList key, v)], rest)
            | ',' :: rest => (readEntries? fuel (skipSpace rest)).map fun (es, rest) =>
                ((String.ofList key, v) :: es, rest)
            | _ => none
        | _ => none
    | _ => none

end

/-- Reads a whole text as a value. -/
def read? (cs : List Char) : Option Value :=
  match readValue? (2 * cs.length + 2) (skipSpace cs) with
  | none => none
  | some (v, rest) => if (skipSpace rest).isEmpty then some v else none

end Json

end ScriptLint
