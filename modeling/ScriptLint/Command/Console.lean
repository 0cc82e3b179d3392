import ScriptLint.Source.Line
import ScriptLint.Text.Columns
import ScriptLint.Text.Quoted

/-!
# Console text

The console interprets what it prints: brackets around a word that starts with a small letter, or
with one of `#`, `/` and `@`, are style tags, and a code between colons is an emoji. Names and
messages are escaped before they are printed, so that tags come out as they are written, but emoji
codes are replaced even then. Which codes there are is up to the console (`Emojis`); of numbers only
100 and 1234 are codes. On the finished line, tabs run up to the next tab stop.

Usage errors go to the other output, which interprets nothing but leaves out the control sequences
of terminals.
-/

namespace ScriptLint

namespace Console

/-- Whether a tag can start with the character. -/
def isTagStart (c : Char) : Bool := c.isLower || c == '#' || c == '/' || c == '@'

/-- The length of the tag at the front of a text: a bracket, a tag character, and the next closing
bracket before any other opening one. -/
def tagWidth? : List Char → Option Nat
  | '[' :: c :: rest =>
    let inner := rest.takeWhile fun x => x != '[' && x != ']'
    if isTagStart c && (rest.drop inner.length).head? == some ']' then some (inner.length + 3)
    else none
  | _ => none

/-- Cuts a text before and behind each of its tags. The next `busy` characters belong to a tag. -/
def tagPieces (busy : Nat) : List Char → List (List Char)
  | [] => [[]]
  | c :: cs =>
    match busy with
    | 1 => [c] :: tagPieces 0 cs
    | k + 2 => (tagPieces (k + 1) cs).modifyHead (c :: ·)
    | 0 =>
      match tagWidth? (c :: cs) with
      | some width => [] :: (tagPieces (width - 1) cs).modifyHead (c :: ·)
      | none => (tagPieces 0 cs).modifyHead (c :: ·)

/-- A backslash before a bracket that opens no tag is taken for an escape and not shown. -/
def dropEscapes : List Char → List Char
  | [] => []
  | '\\' :: '[' :: cs => '[' :: dropEscapes cs
  | c :: cs => c :: dropEscapes cs

/-- The name between two colons at the front of a text, without blanks. -/
def codeName? : List Char → Option (List Char)
  | ':' :: rest =>
    let name := rest.takeWhile fun c => c != ':' && !isBlank c
    if (rest.drop name.length).head? == some ':' then some name else none
  | _ => none

/-- The emoji codes of a console. -/
structure Emojis where
  /-- What the code with a given name shows. -/
  find? : String → Option String
  hundred : find? (showNat 100) = some "💯"
  inputNumbers : find? (showNat 1234) = some "🔢"
  noOtherNumber : ∀ n, n ≠ 100 → n ≠ 1234 → find? (showNat n) = none
  /-- An emoji is shown on one line. -/
  oneLine : ∀ name text, find? name = some text → '\n' ∉ text.toList

/-- The table that has the numbers and no other code. -/
def Emojis.numbers : Emojis where
  find? name :=
    if name = showNat 100 then some "💯" else if name = showNat 1234 then some "🔢" else none
  hundred := rfl
  inputNumbers := rfl
  noOtherNumber n h₁ h₂ := by
    rw [if_neg fun h => h₁ (showNat_inj h), if_neg fun h => h₂ (showNat_inj h)]
  oneLine name text h := by
    split at h
    · obtain rfl := Option.some.inj h
      decide
    · split at h
      · obtain rfl := Option.some.inj h
        decide
      · cases h

/-- The endings that a code may have, with the selectors that they add to the emoji. -/
def variants : List (String × Char) := [("-emoji", emojiSelector), ("-text", '\ufe0e')]

/-- What a code shows. A code with one of the endings is the code before the ending. -/
def emojiText? (emojis : Emojis) (name : List Char) : Option (List Char) :=
  match variants.find? fun v => v.1.toList.isSuffixOf name with
  | some (ending, selector) =>
    (emojis.find? (String.ofList (name.take (name.length - ending.length)))).map
      (·.toList ++ [selector])
  | none => (emojis.find? (String.ofList name)).map (·.toList)

/-- Replaces emoji codes. The next `busy` characters belong to a code already handled, and are shown
only if `keep` is set. The colon that ends a code starts no other. -/
def expandCodes (emojis : Emojis) (busy : Nat) (keep : Bool) : List Char → List Char
  | [] => []
  | c :: cs =>
    match busy with
    | k + 1 => (if keep then [c] else []) ++ expandCodes emojis k keep cs
    | 0 =>
      match codeName? (c :: cs) with
      | none => c :: expandCodes emojis 0 true cs
      | some name =>
        match emojiText? emojis name with
        | some text => text ++ expandCodes emojis (name.length + 1) false cs
        | none => c :: expandCodes emojis (name.length + 1) true cs

/-- The characters that move the cursor and are never shown. -/
def isCursorControl (c : Char) : Bool := ['\x07', '\x08', '\x0b', '\x0c', '\r'].contains c

/-- What the console shows for an escaped text. -/
def shown (emojis : Emojis) (cs : List Char) : List Char :=
  ((tagPieces 0 cs).flatMap fun piece => expandCodes emojis 0 true (dropEscapes piece)).filter
    (!isCursorControl ·)

/-- The distance between tab stops. -/
def tabWidth : Nat := 8

/-- Joins the pieces of a line, each filled up to the next tab stop by one blank at least; `column`
is where the first piece starts. -/
def joinAtStops (column : Nat) : List (List Char) → List Char
  | [] => []
  | [piece] => piece
  | piece :: rest =>
    let filled := piece ++ [' ']
    let reached := column + screenColumns filled
    let gap := (tabWidth - reached % tabWidth) % tabWidth
    filled ++ List.replicate gap ' ' ++ joinAtStops (reached + gap) rest

/-- Fills every tab of a line with blanks up to the next tab stop. -/
def expandTabs (line : List Char) : List Char := joinAtStops 0 (cutAt (· == '\t') line)

/-- The lines of a text, with their tabs filled. -/
def linesOf (text : List Char) : List (List Char) := (cutAt (· == '\n') text).map expandTabs

/-- What is printed for a text. -/
def printed (text : List Char) : List Char := (linesOf text).flatMap (· ++ ['\n'])

/-- A name that ends in a single backslash is escaped by another one, which is shown too. -/
def escapeEnd (name : List Char) : List Char :=
  match name.reverse with
  | '\\' :: '\\' :: _ => name
  | '\\' :: _ => name ++ ['\\']
  | _ => name

/-! ## Control sequences -/

/-- Whether a character is a parameter of a control sequence. -/
def isParameter (c : Char) : Bool := '0' ≤ c && c ≤ '?'

/-- Whether a character can stand between the parameters and the end of a control sequence. -/
def isIntermediate (c : Char) : Bool := ' ' ≤ c && c ≤ '/'

/-- Whether a character ends a control sequence. -/
def isFinal (c : Char) : Bool := '@' ≤ c && c ≤ '~'

/-- The length of the control sequence at the front of a text: an escape and a bracket, parameters,
intermediate characters and a final one. -/
def sequenceWidth? : List Char → Option Nat
  | '\x1b' :: '[' :: rest =>
    let parameters := rest.takeWhile isParameter
    let behind := rest.dropWhile isParameter
    let between := behind.takeWhile isIntermediate
    if (behind.dropWhile isIntermediate).head?.any isFinal then
      some (parameters.length + between.length + 3)
    else none
  | _ => none

/-- Leaves out control sequences. The next `busy` characters belong to one. -/
def dropSequences (busy : Nat) : List Char → List Char
  | [] => []
  | c :: cs =>
    match busy with
    | k + 1 => dropSequences k cs
    | 0 =>
      match sequenceWidth? (c :: cs) with
      | some width => dropSequences (width - 1) cs
      | none => c :: dropSequences 0 cs

/-- A text without its control sequences. -/
def plain (s : String) : String := String.ofList (dropSequences 0 s.toList)

end Console

end ScriptLint
