import ScriptLint.Text.Blank
import ScriptLint.Text.Columns

/-!
# Wrapped lines

`wrapLine` breaks a line so that each piece fits into a number of columns. It breaks before a word;
only a word that is too wide for a whole line is cut, at the last cluster that fits. Blanks belong
to the word before them and may stick out, since a line is shown without its trailing blanks.
-/

namespace ScriptLint

/-- Cuts a text before each visible character that a blank precedes. -/
def visibleStarts : List Char → List (List Char)
  | [] => []
  | c :: cs =>
    match visibleStarts cs with
    | [] => [[c]]
    | piece :: rest =>
      if isBlank c && !piece.head?.any isBlank then [c] :: piece :: rest
      else (c :: piece) :: rest

/-- The words of a line, each with the blanks behind it. The first one has the blanks at the start
of the line too. -/
def wrapWords (line : List Char) : List (List Char) :=
  match visibleStarts line with
  | first :: second :: rest =>
    if first.all isBlank then (first ++ second) :: rest else first :: second :: rest
  | pieces => pieces

/-- Cuts clusters into pieces of at most `width` columns, behind a piece that has `used` columns
already. -/
def cutClusters (width : Nat) (piece : List Char) (used : Nat) :
    List Cluster → List (List Char)
  | [] => if used = 0 then [] else [piece]
  | k :: ks =>
    if used + k.columns > width then piece :: cutClusters width k.text k.columns ks
    else cutClusters width (piece ++ k.text) (used + k.columns) ks

/-- Cuts a word into pieces of at most `width` columns. -/
def cutWord (width : Nat) (word : List Char) : List (List Char) :=
  cutClusters width [] 0 (clusters word)

/-- Lays words out on lines of `width` columns. The line begun so far has `used` columns. -/
def layWords (width : Nat) (line : List Char) (used : Nat) : List (List Char) → List (List Char)
  | [] => [line]
  | word :: rest =>
    let needed := screenColumns (trimEnd word)
    if used + needed ≤ width then
      layWords width (line ++ word) (used + screenColumns word) rest
    else
      let before := if line.isEmpty then [] else [line]
      if needed ≤ width then before ++ layWords width word (screenColumns word) rest
      else
        let pieces := cutWord width word
        let last := pieces.getLastD []
        before ++ pieces.dropLast ++ layWords width last (screenColumns last) rest

/-- The pieces of a line that fit into `width` columns. -/
def wrapLine (width : Nat) (line : List Char) : List (List Char) :=
  layWords width [] 0 (wrapWords line)

end ScriptLint
