import ScriptLint.Proofs.Directives
import ScriptLint.Proofs.History

/-!
# Line endings

A line ends with a line feed, or with a carriage return and a line feed. Which of the two is used,
line by line, has no influence on anything that is found in a script: `splitLines` gives the same
lines (`splitLines_endedText`), and these are all that a session takes from its text
(`run_start_congr`).

In the other direction, the lines of a text can be joined again by line feeds. They are split into
the same lines, unless a line of the text ends in two carriage returns: the first split leaves one
of them at the end of the line, and the second split drops it (`map_dropReturn_splitLines_eq_iff`).
-/

namespace ScriptLint

/-! ## Lines with their endings -/

/-- How a line can end. -/
inductive LineEnding where
  | lineFeed
  | returnAndLineFeed
deriving Repr, DecidableEq

/-- The characters of a line ending. -/
def LineEnding.text : LineEnding → List Char
  | .lineFeed => ['\n']
  | .returnAndLineFeed => ['\r', '\n']

/-- The text of lines with their endings. The last line has none. -/
def endedText (ended : List (Line × LineEnding)) (last : Line) : List Char :=
  ended.flatMap (fun e => e.1 ++ e.2.text) ++ last

/-- A line to which a line ending can be added: no part of it is taken for one. -/
structure IsBareLine (line : Line) : Prop where
  unbroken : '\n' ∉ line
  noReturn : line.getLast? ≠ some '\r'

/-- A return at the end is dropped. -/
@[simp] theorem dropReturn_concat (line : Line) : dropReturn (line ++ ['\r']) = line := by
  rw [dropReturn, if_pos List.getLast?_concat, List.dropLast_concat]

/-- A bare line has no return to drop. -/
theorem IsBareLine.dropReturn_eq {line : Line} (h : IsBareLine line) : dropReturn line = line :=
  if_neg h.noReturn

/-- A line with its ending is the first line of a text. -/
theorem IsBareLine.splitLines_append {line : Line} (h : IsBareLine line) (ending : LineEnding)
    (rest : List Char) : splitLines (line ++ ending.text ++ rest) = line :: splitLines rest := by
  cases ending with
  | lineFeed =>
    rw [List.append_assoc]
    exact (splitLines_append_cons line rest).trans
      (by rw [splitLines_eq_singleton h.unbroken, h.dropReturn_eq, List.singleton_append])
  | returnAndLineFeed =>
    have hunbroken : '\n' ∉ line ++ ['\r'] := by simpa using h.unbroken
    have hsplit : line ++ LineEnding.returnAndLineFeed.text ++ rest =
        (line ++ ['\r']) ++ '\n' :: rest := by simp [LineEnding.text]
    rw [hsplit, splitLines_append_cons, splitLines_eq_singleton hunbroken, dropReturn_concat,
      List.singleton_append]

/-- Whatever the line endings are, splitting gives the lines. -/
theorem splitLines_endedText {ended : List (Line × LineEnding)} {last : Line}
    (h : ∀ e ∈ ended, IsBareLine e.1) (hlast : IsBareLine last) :
    splitLines (endedText ended last) = ended.map (·.1) ++ [last] := by
  induction ended with
  | nil =>
    show splitLines last = [last]
    rw [splitLines_eq_singleton hlast.unbroken, hlast.dropReturn_eq]
  | cons e ended ih =>
    obtain ⟨hfirst, h⟩ := List.forall_mem_cons.1 h
    rw [endedText, List.flatMap_cons, List.append_assoc, hfirst.splitLines_append]
    exact congrArg (e.1 :: ·) (ih h)

/-- A session on a text answers as one on any other text with the same lines. -/
theorem Session.run_start_congr {text text' : String}
    (h : splitLines text'.toList = splitLines text.toList) (uri : String) (options : Options)
    (registry : Registry) (requests : List Request) :
    (Session.start text' uri options registry).run requests =
      (Session.start text uri options registry).run requests := by
  have hstart := Remembers.start text' uri options registry
  rw [h] at hstart
  exact (hstart.run_eq requests).trans
    ((Remembers.start text uri options registry).run_eq requests).symm

/-! ## The lines of a text -/

/-- A text has one line more than line feeds. -/
theorem length_splitLines (text : List Char) : (splitLines text).length = text.count '\n' + 1 := by
  induction text using lines_induction with
  | last line hline =>
    rw [splitLines_eq_singleton hline, List.count_eq_zero.2 hline]
    rfl
  | cons line rest hline ih =>
    rw [splitLines_append_cons, splitLines_eq_singleton hline, List.length_append, ih,
      List.count_append, List.count_eq_zero.2 hline, List.count_cons_self, List.length_singleton]
    omega

/-- What is dropped stands at the end. -/
theorem dropReturn_isPrefix (line : Line) : dropReturn line <+: line := by
  rcases dropReturn_cases line with ⟨hdrop, -⟩ | ⟨front, rfl, hdrop⟩
  · rw [hdrop]
  · rw [hdrop]
    exact List.prefix_append _ _

/-- No line has a line feed. -/
theorem lineFeed_notMem_of_mem_splitLines (text : List Char) :
    ∀ line ∈ splitLines text, '\n' ∉ line := by
  have hdrop {line : Line} (hline : '\n' ∉ line) : '\n' ∉ dropReturn line :=
    fun hmem => hline ((dropReturn_isPrefix line).subset hmem)
  induction text using lines_induction with
  | last line hline =>
    rw [splitLines_eq_singleton hline]
    exact List.forall_mem_singleton.2 (hdrop hline)
  | cons line rest hline ih =>
    rw [splitLines_append_cons, splitLines_eq_singleton hline, List.singleton_append]
    exact List.forall_mem_cons.2 ⟨hdrop hline, ih⟩

/-! ## Splitting joined lines -/

/-- Lines that are joined by line feeds lose the carriage returns at their ends when they are
split. -/
theorem splitLines_intercalate {lines : List Line} (hne : lines ≠ [])
    (h : ∀ line ∈ lines, '\n' ∉ line) :
    splitLines (['\n'].intercalate lines) = lines.map dropReturn := by
  induction lines with
  | nil => exact absurd rfl hne
  | cons line lines ih =>
    obtain ⟨hline, h⟩ := List.forall_mem_cons.1 h
    cases lines with
    | nil => rw [List.intercalate_singleton, splitLines_eq_singleton hline, List.map_singleton]
    | cons next lines =>
      rw [List.intercalate_cons_cons, List.append_assoc, List.singleton_append,
        splitLines_append_cons, splitLines_eq_singleton hline, ih (List.cons_ne_nil _ _) h]
      rfl

/-- A second carriage return is dropped if there are two at the end of a line. -/
theorem dropReturn_dropReturn_eq_iff {line : Line} :
    dropReturn (dropReturn line) = dropReturn line ↔ ¬ ['\r', '\r'] <:+ line := by
  rcases dropReturn_cases line with ⟨hdrop, hlast⟩ | ⟨front, rfl, hdrop⟩
  · rw [hdrop, hdrop]
    refine iff_of_true rfl ?_
    rintro ⟨front, rfl⟩
    exact hlast (by simp)
  · rw [hdrop]
    rcases dropReturn_cases front with ⟨hfront, hlast⟩ | ⟨front', rfl, hfront⟩
    · refine iff_of_true hfront ?_
      rintro ⟨front', heq⟩
      obtain rfl : front' ++ ['\r'] = front := List.append_cancel_right (by simpa using heq)
      exact hlast List.getLast?_concat
    · rw [hfront]
      refine iff_of_false ?_ (not_not_intro ⟨front', by simp⟩)
      intro heq
      simpa using congrArg List.length heq

/-- The line feed behind a line has two carriage returns before it if the line ends in them. -/
theorem returns_prefix_iff {line : List Char} (h : '\n' ∉ line) (rest : List Char) :
    ['\r', '\r', '\n'] <+: line ++ '\n' :: rest ↔ ['\r', '\r'] = line := by
  match line with
  | [] => simp
  | [c] => simp
  | [c, d] => simp
  | c :: d :: e :: line =>
    have hne : '\n' ≠ e := by
      rintro rfl
      simp at h
    simp [hne]

/-- Two carriage returns and a line feed stand at the end of a line, or behind it. -/
theorem returns_infix_append_cons {line : List Char} (h : '\n' ∉ line) (rest : List Char) :
    ['\r', '\r', '\n'] <:+: line ++ '\n' :: rest ↔
      ['\r', '\r'] <:+ line ∨ ['\r', '\r', '\n'] <:+: rest := by
  induction line with
  | nil => simp [List.infix_cons_iff]
  | cons c line ih =>
    have hline : '\n' ∉ line := fun hmem => h (List.mem_cons_of_mem c hmem)
    have hfront := returns_prefix_iff h rest
    rw [List.cons_append] at hfront ⊢
    rw [List.infix_cons_iff, hfront, ih hline, List.suffix_cons_iff, or_assoc]

/-- Splitting the lines of a text again drops nothing, unless a line ends in two carriage
returns. -/
theorem map_dropReturn_splitLines_eq_iff (text : List Char) :
    (splitLines text).map dropReturn = splitLines text ↔
      ¬ ['\r', '\r', '\n'] <:+: text ++ ['\n'] := by
  induction text using lines_induction with
  | last line hline =>
    rw [splitLines_eq_singleton hline, returns_infix_append_cons hline, List.map_singleton,
      List.singleton_inj, dropReturn_dropReturn_eq_iff]
    simp
  | cons line rest hline ih =>
    have hend : line ++ '\n' :: rest ++ ['\n'] = line ++ '\n' :: (rest ++ ['\n']) := by simp
    rw [hend, splitLines_append_cons, splitLines_eq_singleton hline,
      returns_infix_append_cons hline, List.singleton_append, List.map_cons, List.cons.injEq, ih,
      dropReturn_dropReturn_eq_iff, not_or]

/-- **Line endings do not matter.** Lines that have no line feed inside and no carriage return at
the end are given back by their text, whichever ending each of them has. So the analysis of the text
is that of the lines, and a session on it answers as one on the text with any other endings. Every
text has one line more than line feeds, and no line has one inside. Joining the lines of a text by
line feeds and splitting them again gives the same lines, if and only if no line of the text ends in
two carriage returns, be it before a line feed or at the end of the text. -/
theorem line_endings_inert :
    (∀ (ended : List (Line × LineEnding)) (last : Line), (∀ e ∈ ended, IsBareLine e.1) →
      IsBareLine last →
      splitLines (endedText ended last) = ended.map (·.1) ++ [last] ∧
      (∀ (registry : Registry) (options : Options),
        analyze registry options (splitLines (endedText ended last)) =
          analyze registry options (ended.map (·.1) ++ [last])) ∧
      Symbols.extract (splitLines (endedText ended last)) =
        Symbols.extract (ended.map (·.1) ++ [last]) ∧
      ∀ ended' : List (Line × LineEnding), ended'.map (·.1) = ended.map (·.1) →
        ∀ (uri : String) (options : Options) (registry : Registry) (requests : List Request),
          (Session.start (String.ofList (endedText ended' last)) uri options registry).run
            requests =
            (Session.start (String.ofList (endedText ended last)) uri options registry).run
              requests) ∧
    ∀ text : List Char,
      (splitLines text).length = text.count '\n' + 1 ∧
      (∀ line ∈ splitLines text, '\n' ∉ line) ∧
      (splitLines (['\n'].intercalate (splitLines text)) = splitLines text ↔
        ¬ ['\r', '\r', '\n'] <:+: text ++ ['\n']) := by
  refine ⟨fun ended last h hlast => ?_, fun text => ?_⟩
  · have hsplit := splitLines_endedText h hlast
    refine ⟨hsplit, fun registry options => by rw [hsplit], by rw [hsplit], ?_⟩
    intro ended' hsame uri options registry requests
    have h' : ∀ e ∈ ended', IsBareLine e.1 := by
      rw [← List.forall_mem_map (f := Prod.fst) (P := IsBareLine)] at h ⊢
      rwa [hsame]
    refine Session.run_start_congr ?_ uri options registry requests
    rw [String.toList_ofList, String.toList_ofList, hsplit, splitLines_endedText h' hlast, hsame]
  · have hlines := lineFeed_notMem_of_mem_splitLines text
    have hne : splitLines text ≠ [] := by
      rw [splitLines, ne_eq, List.map_eq_nil_iff]
      exact cutAt_ne_nil _ text
    refine ⟨length_splitLines text, hlines, ?_⟩
    rw [splitLines_intercalate hne hlines, map_dropReturn_splitLines_eq_iff]

instance (line : Line) : Decidable (IsBareLine line) :=
  decidable_of_iff ('\n' ∉ line ∧ line.getLast? ≠ some '\r')
    ⟨fun h => ⟨h.1, h.2⟩, fun h => ⟨h.1, h.2⟩⟩

/-- Both endings in one text, behind an empty line and behind a line with a carriage return
inside. -/
theorem line_endings_inert_mixed :
    splitLines "x\r\n\n\ra\r\nend".toList =
      ["x".toList, [], "\ra".toList, "end".toList] ∧
    ∀ requests : List Request,
      (Session.start "x\n\r\n\ra\nend" "" {} .empty).run requests =
        (Session.start "x\r\n\n\ra\r\nend" "" {} .empty).run requests := by
  have hlines : ∀ e ∈ [("x".toList, LineEnding.returnAndLineFeed), ([], .lineFeed),
      ("\ra".toList, .returnAndLineFeed)], IsBareLine e.1 :=
    List.forall_mem_cons.2 ⟨by decide, List.forall_mem_cons.2 ⟨by decide,
      List.forall_mem_singleton.2 (by decide)⟩⟩
  obtain ⟨hsplit, -, -, hrun⟩ := line_endings_inert.1 _ "end".toList hlines (by decide)
  exact ⟨hsplit, hrun [("x".toList, .lineFeed), ([], .returnAndLineFeed), ("\ra".toList, .lineFeed)]
    rfl "" {} .empty⟩

end ScriptLint
