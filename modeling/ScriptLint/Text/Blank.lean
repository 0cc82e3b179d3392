import ScriptLint.Text.CodeRange

/-!
# Blanks and line breaks

`isBlank` is the one notion of white space of the library: indentation, the blank runs between
the words of a rule and the trimming of texts all use it.

Texts from outside may end their lines in many ways. `textLines` cuts at every line break of
Unicode, where a carriage return and the line feed behind it are one break. The text behind the last
break is a line only if it is not empty. `unifyBreaks` turns the breaks of the common kinds into
line feeds.
-/

namespace ScriptLint

/-- The code points of white space: the ASCII controls from tab to carriage return and from file
separator to unit separator, the space, and the space separators of Unicode. -/
def blankRanges : CodeRanges :=
  [(0x9, 0xd), (0x1c, 0x20), (0x85, 0x85), (0xa0, 0xa0), (0x1680, 0x1680), (0x2000, 0x200a),
    (0x2028, 0x2029), (0x202f, 0x202f), (0x205f, 0x205f), (0x3000, 0x3000)]

/-- Whether a character is white space. -/
def isBlank (c : Char) : Bool := blankRanges.contains c

/-- A text without its leading blanks. -/
def trimStart (cs : List Char) : List Char := cs.dropWhile isBlank

/-- A text without its trailing blanks. -/
def trimEnd (cs : List Char) : List Char := (cs.reverse.dropWhile isBlank).reverse

/-- A text without the blanks at its two ends. -/
def trim (cs : List Char) : List Char := trimEnd (trimStart cs)

/-! ## Line breaks -/

/-- Whether a character ends a line. -/
def isLineBreak (c : Char) : Bool :=
  ['\n', '\x0b', '\x0c', '\r', '\x1c', '\x1d', '\x1e', '\u0085', '\u2028', '\u2029'].contains c

/-- Puts a character in front of the first line, which starts with it if there is none yet. -/
def addToLine (c : Char) : List (List Char) → List (List Char)
  | [] => [[c]]
  | line :: lines => (c :: line) :: lines

/-- The lines of a text, without their ends. -/
def textLines : List Char → List (List Char)
  | [] => []
  | '\r' :: '\n' :: cs => [] :: textLines cs
  | c :: cs => if isLineBreak c then [] :: textLines cs else addToLine c (textLines cs)

/-- A text with every carriage return, or carriage return and line feed, turned into a line feed. -/
def unifyBreaks : List Char → List Char
  | [] => []
  | '\r' :: '\n' :: cs => '\n' :: unifyBreaks cs
  | c :: cs => (if c = '\r' then '\n' else c) :: unifyBreaks cs

end ScriptLint
