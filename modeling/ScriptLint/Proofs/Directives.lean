import Mathlib.Data.List.Infix
import ScriptLint.Options.Layers

/-!
# Where directives stand

Directives are looked for on the lines that end at any line break, while a script is analysed on the
lines that end at a line feed. The first kind is finer: each analysed line is one or more of them
(`parts_eq`), so the first lines of the one kind lie within the first lines of the other
(`exists_line_of_mem_take_textLines`). A directive is thus a comment on one of the first analysed
lines, or on a part of one behind a line break inside of it. `directives_only_in_comments` says so,
and `flags_of_string_literal` shows that the second case does occur.
-/

namespace ScriptLint

/-! ## Line breaks -/

/-- A text is built up from its lines. -/
@[elab_as_elim]
theorem lines_induction {motive : List Char → Prop}
    (last : ∀ line, '\n' ∉ line → motive line)
    (cons : ∀ line rest, '\n' ∉ line → motive rest → motive (line ++ '\n' :: rest))
    (text : List Char) : motive text := by
  by_cases h : '\n' ∈ text
  · obtain ⟨line, rest, htext, hline⟩ := List.eq_append_cons_of_mem h
    rw [htext]
    exact cons line rest hline (lines_induction last cons rest)
  · exact last text h
termination_by text.length
decreasing_by
  rw [htext, List.length_append, List.length_cons]
  omega

/-- A carriage return at the end of a line is all that is dropped. -/
theorem dropReturn_cases (line : Line) :
    dropReturn line = line ∧ line.getLast? ≠ some '\r' ∨
      ∃ front, line = front ++ ['\r'] ∧ dropReturn line = front := by
  unfold dropReturn
  split
  · rename_i h
    obtain ⟨front, rfl⟩ := List.getLast?_eq_some_iff.1 h
    exact .inr ⟨front, rfl, List.dropLast_concat⟩
  · rename_i h
    exact .inl ⟨rfl, h⟩

/-- The text without an empty line at its end. -/
def dropEmptyEnd (lines : List (List Char)) : List (List Char) :=
  if lines.getLast? = some [] then lines.dropLast else lines

/-- The parts of a text between its line breaks. -/
def parts (text : List Char) : List (List Char) := cutAt isLineBreak (unifyBreaks text)

/-- A line break by itself is one character. -/
def unifyBreak (c : Char) : Char := if c = '\r' then '\n' else c

/-- A character is unified by itself, unless it is the first of a pair of returns and line feeds. -/
theorem unifyBreaks_cons {c : Char} {cs : List Char} (h : c = '\r' → cs.head? ≠ some '\n') :
    unifyBreaks (c :: cs) = unifyBreak c :: unifyBreaks cs := by
  rw [unifyBreaks.eq_def]
  split
  · rename_i heq
    cases heq
  · rename_i heq
    cases heq
    exact absurd rfl (h rfl)
  · rename_i heq
    cases heq
    rfl

/-- Line breaks are replaced one by one, unless the text is cut between the two characters of
one. -/
theorem unifyBreaks_append {line rest : List Char} (hline : '\n' ∉ line)
    (h : line.getLast? = some '\r' → rest.head? ≠ some '\n') :
    unifyBreaks (line ++ rest) = line.map unifyBreak ++ unifyBreaks rest := by
  induction line with
  | nil => rfl
  | cons c line ih =>
    cases line with
    | nil => exact unifyBreaks_cons fun hc => h (by rw [hc]; rfl)
    | cons d line =>
      obtain ⟨-, hline⟩ := not_or.1 (mt List.mem_cons.2 hline)
      have hhead : (d :: line ++ rest).head? ≠ some '\n' := by
        intro hd
        cases hd
        exact hline (.head _)
      have hrest := ih hline (by rwa [List.getLast?_cons_cons] at h)
      exact (unifyBreaks_cons fun _ => hhead).trans (congrArg (unifyBreak c :: ·) hrest)

/-- Within a line, characters are unified one by one. -/
theorem unifyBreaks_eq_map {line : List Char} (h : '\n' ∉ line) :
    unifyBreaks line = line.map unifyBreak := by
  have happend : unifyBreaks (line ++ []) = line.map unifyBreak ++ unifyBreaks [] :=
    unifyBreaks_append h (by simp)
  rwa [List.append_nil, unifyBreaks, List.append_nil] at happend

/-! ## Lines and their parts -/

/-- A line break stays one when it is unified. -/
theorem isLineBreak_unifyBreak (c : Char) : isLineBreak (unifyBreak c) = isLineBreak c := by
  unfold unifyBreak
  split
  · rename_i hc
    rw [hc]
    rfl
  · rfl

/-- A line with its line feed has its own parts. -/
theorem parts_append {line : List Char} (h : '\n' ∉ line) (rest : List Char) :
    parts (line ++ '\n' :: rest) = parts (dropReturn line) ++ parts rest := by
  have hunify : unifyBreaks (line ++ '\n' :: rest) =
      unifyBreaks (dropReturn line) ++ '\n' :: unifyBreaks rest := by
    rcases dropReturn_cases line with ⟨hdrop, hlast⟩ | ⟨front, rfl, hdrop⟩
    · rw [hdrop, unifyBreaks_eq_map h, unifyBreaks_append h fun hr => absurd hr hlast]
      exact congrArg _ (unifyBreaks_cons (by simp))
    · have hfront : '\n' ∉ front := fun hmem => h (List.mem_append_left _ hmem)
      rw [hdrop, unifyBreaks_eq_map hfront, List.append_assoc, unifyBreaks_append hfront (by simp)]
      rfl
  rw [parts, hunify, cutAt_append_cons rfl]
  rfl

/-- The last line has the parts of the line without its return, and perhaps an empty one. -/
theorem parts_last {line : List Char} (h : '\n' ∉ line) :
    ∃ extra, (∀ part ∈ extra, part = []) ∧ parts line = parts (dropReturn line) ++ extra := by
  rcases dropReturn_cases line with ⟨hdrop, -⟩ | ⟨front, rfl, hdrop⟩
  · exact ⟨[], by simp, by rw [hdrop, List.append_nil]⟩
  · have hfront : '\n' ∉ front := fun hmem => h (List.mem_append_left _ hmem)
    refine ⟨[[]], by simp, ?_⟩
    rw [hdrop, parts, parts, unifyBreaks_eq_map hfront, unifyBreaks_eq_map h, List.map_append]
    exact cutAt_append_cons rfl _ []

/-- The parts of a text are those of its lines, but for an empty one behind a carriage return at the
very end. -/
theorem parts_eq (text : List Char) :
    ∃ extra, (∀ part ∈ extra, part = []) ∧
      parts text = (splitLines text).flatMap parts ++ extra := by
  induction text using lines_induction with
  | last line hline =>
    rw [splitLines_eq_singleton hline, List.flatMap_singleton]
    exact parts_last hline
  | cons line rest hline ih =>
    obtain ⟨extra, hextra, hrest⟩ := ih
    refine ⟨extra, hextra, ?_⟩
    rw [parts_append hline, hrest, splitLines_append_cons, splitLines_eq_singleton hline,
      List.flatMap_append, List.flatMap_singleton, List.append_assoc]

/-- An empty end is dropped from behind the first line. -/
theorem dropEmptyEnd_cons {lines : List (List Char)} (h : lines ≠ []) (line : List Char) :
    dropEmptyEnd (line :: lines) = line :: dropEmptyEnd lines := by
  cases lines with
  | nil => exact absurd rfl h
  | cons next lines =>
    rw [dropEmptyEnd, dropEmptyEnd, List.getLast?_cons_cons]
    split <;> rfl

/-- An empty end is dropped in the same way if the first line gets a character more. -/
theorem dropEmptyEnd_modifyHead {lines : List (List Char)} (h : lines ≠ []) (c : Char) :
    dropEmptyEnd (lines.modifyHead (c :: ·)) = addToLine c (dropEmptyEnd lines) := by
  match lines with
  | [] => exact absurd rfl h
  | [line] => cases line <;> rfl
  | line :: next :: lines =>
    have htail : next :: lines ≠ [] := List.cons_ne_nil _ _
    rw [List.modifyHead_cons, dropEmptyEnd_cons htail, dropEmptyEnd_cons htail]
    rfl

/-- The lines of a text are its parts, but for an empty one at the end. -/
theorem textLines_eq (text : List Char) : textLines text = dropEmptyEnd (parts text) := by
  unfold parts
  fun_induction textLines text with
  | case1 => rfl
  | case2 cs ih =>
    rw [ih]
    exact (dropEmptyEnd_cons (cutAt_ne_nil _ _) []).symm
  | case3 c cs hnot hbreak ih =>
    have hsingle : c = '\r' → cs.head? ≠ some '\n' := by
      intro hc hhead
      obtain ⟨rest, rfl⟩ := List.head?_eq_some_iff.1 hhead
      exact hnot rest hc rfl
    rw [unifyBreaks_cons hsingle, cutAt, isLineBreak_unifyBreak, if_pos hbreak,
      dropEmptyEnd_cons (cutAt_ne_nil _ _), ih]
  | case4 c cs hnot hbreak ih =>
    have hreturn : c ≠ '\r' := by
      rintro rfl
      exact hbreak rfl
    have hsame : unifyBreak c = c := if_neg hreturn
    rw [unifyBreaks_cons fun hc => absurd hc hreturn, cutAt, hsame, if_neg hbreak,
      dropEmptyEnd_modifyHead (cutAt_ne_nil _ _), ih]

/-- What is not empty is no less a line for being the last. -/
theorem mem_textLines_of_mem_parts {text part : List Char} (h : part ∈ parts text)
    (hne : part ≠ []) :
    part ∈ textLines text := by
  rw [textLines_eq, dropEmptyEnd]
  split
  · rename_i hlast
    obtain ⟨front, hfront⟩ := List.getLast?_eq_some_iff.1 hlast
    rw [hfront, List.mem_append, List.mem_singleton] at h
    rw [hfront, List.dropLast_concat]
    exact h.resolve_right hne
  · exact h

/-- The lines of a text are its parts but for an empty end. -/
theorem textLines_prefix_parts (text : List Char) : textLines text <+: parts text := by
  rw [textLines_eq, dropEmptyEnd]
  split
  · exact List.dropLast_prefix _
  · exact List.prefix_refl _

/-- If every item gives something, then the first things come from the first items. -/
theorem exists_mem_take_of_mem_take_flatMap {α β : Type} {f : α → List β} (hf : ∀ a, f a ≠ [])
    {items : List α} {n : Nat} {b : β} (h : b ∈ (items.flatMap f).take n) :
    ∃ a ∈ items.take n, b ∈ f a := by
  induction items generalizing n with
  | nil => simp at h
  | cons a items ih =>
    cases n with
    | zero => simp at h
    | succ n =>
      rw [List.flatMap_cons, List.take_append, List.mem_append] at h
      rcases h with h | h
      · exact ⟨a, .head _, List.mem_of_mem_take h⟩
      · obtain ⟨a', ha', hb⟩ := ih h
        have hlen : 0 < (f a).length := List.length_pos_iff.2 (hf a)
        exact ⟨a', .tail _ (List.take_subset_take_left items (by omega) ha'), hb⟩

/-- The first lines of a text lie within its first analysed lines. -/
theorem exists_line_of_mem_take_textLines {text piece : List Char} {n : Nat}
    (h : piece ∈ (textLines text).take n) (hne : piece ≠ []) :
    ∃ line ∈ (splitLines text).take n, piece ∈ textLines line := by
  obtain ⟨extra, hextra, hparts⟩ := parts_eq text
  have hpiece := ((textLines_prefix_parts text).take n).subset h
  rw [hparts, List.take_append, List.mem_append] at hpiece
  rcases hpiece with hpiece | hpiece
  · obtain ⟨line, hline, hpart⟩ :=
      exists_mem_take_of_mem_take_flatMap (fun line => cutAt_ne_nil _ _) hpiece
    exact ⟨line, hline, mem_textLines_of_mem_parts hpart hne⟩
  · exact absurd (hextra piece (List.mem_of_mem_take hpiece)) hne

/-- A line without a line break inside has one part. -/
theorem parts_eq_singleton {line : List Char} (h : ∀ c ∈ line, isLineBreak c = false) :
    parts line = [line] := by
  have hnone : ∀ c, isLineBreak c = true → c ∉ line := by
    intro c hc hmem
    rw [h c hmem] at hc
    cases hc
  have hsame : line.map unifyBreak = line := by
    refine (List.map_congr_left ?_).trans (List.map_id line)
    intro c hc
    exact if_neg fun (hreturn : c = '\r') => hnone '\r' rfl (hreturn ▸ hc)
  rw [parts, unifyBreaks_eq_map (hnone '\n' rfl), hsame, cutAt_eq_singleton h]

/-- A text without line breaks has no line but itself. -/
theorem eq_of_mem_textLines {line piece : List Char} (h : ∀ c ∈ line, isLineBreak c = false)
    (hpiece : piece ∈ textLines line) : piece = line := by
  have hmem := (textLines_prefix_parts line).subset hpiece
  rwa [parts_eq_singleton h, List.mem_singleton] at hmem

/-- A text without line breaks is one line, unless it is empty. -/
theorem textLines_eq_singleton {line : List Char} (h : ∀ c ∈ line, isLineBreak c = false)
    (hne : line ≠ []) : textLines line = [line] := by
  rw [textLines_eq, parts_eq_singleton h, dropEmptyEnd, if_neg]
  exact fun hlast => hne (Option.some.inj hlast)

/-! ## Marked comments -/

/-- What is trimmed off the end leaves the front. -/
theorem trimEnd_prefix (cs : List Char) : trimEnd cs <+: cs := by
  have h := List.reverse_prefix.2 (List.dropWhile_suffix (l := cs.reverse) isBlank)
  rwa [List.reverse_reverse] at h

namespace Directive

/-- A line whose first visible character starts a comment, and which has the mark of directives on
it. -/
def IsMarkedComment (line : List Char) : Prop :=
  (trimStart line).head? = some '#' ∧ "@jyro".toList <:+: line

/-- A text mentions the mark if the mark stands anywhere in it. -/
theorem mentionsMark_iff {cs : List Char} : mentionsMark cs = true ↔ "@jyro".toList <:+: cs := by
  induction cs with
  | nil => simp [mentionsMark]
  | cons c cs ih =>
    rw [mentionsMark, Bool.or_eq_true, ih, List.infix_cons_iff, List.isPrefixOf_iff_prefix]
    rfl

/-- Only marked comments are directives. -/
theorem isMarkedComment_of_body? {line body : List Char} (h : body? line = some body) :
    IsMarkedComment line := by
  have hcomment : (trim line).head? = some '#' ∧ "@jyro".toList <:+: trim line := by
    unfold body? at h
    dsimp only at h
    split at h
    · rename_i hcomment
      rwa [Bool.and_eq_true, decide_eq_true_eq, mentionsMark_iff] at hcomment
    · cases h
  obtain ⟨hhead, hmark⟩ := hcomment
  have hstart : trim line <+: trimStart line := trimEnd_prefix _
  refine ⟨?_, hmark.trans (hstart.isInfix.trans (List.dropWhile_suffix isBlank).isInfix)⟩
  obtain ⟨cs, hcs⟩ := List.head?_eq_some_iff.1 hhead
  obtain ⟨rest, hrest⟩ := hstart
  rw [← hrest, hcs]
  rfl

/-- A text without marked comments in its first lines, or in parts of them, has no directives. -/
theorem flags_eq_nil {text : List Char}
    (h : ∀ line ∈ (splitLines text).take 25, ∀ piece ∈ textLines line, ¬ IsMarkedComment piece) :
    flags text = [] := by
  have hbodies : bodies text = [] := by
    rw [bodies, List.filterMap_eq_nil_iff]
    intro piece hpiece
    cases hbody : body? piece with
    | none => rfl
    | some body =>
      have hmarked := isMarkedComment_of_body? hbody
      have hne : piece ≠ [] := by
        rintro rfl
        cases hmarked.1
      obtain ⟨line, hline, hmem⟩ := exists_line_of_mem_take_textLines hpiece hne
      exact absurd hmarked (h line hline piece hmem)
  rw [flags, hbodies]
  rfl

/-- **Directives stand in comments.** If no line break stands inside the first lines of a script,
and none of these lines is a comment with the mark on it, then there are no directives. With line
breaks inside of lines this holds of the parts between them. -/
theorem directives_only_in_comments (text : List Char) :
    ((∀ line ∈ (splitLines text).take 25, ∀ c ∈ line, isLineBreak c = false) →
      (∀ line ∈ (splitLines text).take 25, ¬ IsMarkedComment line) → flags text = []) ∧
    ((∀ line ∈ (splitLines text).take 25, ∀ piece ∈ textLines line, ¬ IsMarkedComment piece) →
      flags text = []) := by
  refine ⟨?_, flags_eq_nil⟩
  intro hbreaks hlines
  refine flags_eq_nil ?_
  intro line hline piece hpiece
  rw [eq_of_mem_textLines (hbreaks line hline) hpiece]
  exact hlines line hline

instance (line : List Char) : Decidable (IsMarkedComment line) :=
  inferInstanceAs (Decidable (_ ∧ _))

/-- A mark in a string literal and behind code, and a directive behind the first lines. -/
theorem directives_only_in_comments_behind_code :
    (∀ line ∈ (splitLines ("Data.x = \"# @jyro: a=1\"\nvar b # @jyro: a=1\r\n".toList ++
      List.replicate 23 '\n' ++ "# @jyro: a=1".toList)).take 25,
        (∀ c ∈ line, isLineBreak c = false) ∧ ¬ IsMarkedComment line) ∧
    flags ("Data.x = \"# @jyro: a=1\"\nvar b # @jyro: a=1\r\n".toList ++
      List.replicate 23 '\n' ++ "# @jyro: a=1".toList) = [] := by
  have hlines : ∀ line ∈ (splitLines ("Data.x = \"# @jyro: a=1\"\nvar b # @jyro: a=1\r\n".toList ++
      List.replicate 23 '\n' ++ "# @jyro: a=1".toList)).take 25,
        (∀ c ∈ line, isLineBreak c = false) ∧ ¬ IsMarkedComment line := by
    have hall : ((splitLines ("Data.x = \"# @jyro: a=1\"\nvar b # @jyro: a=1\r\n".toList ++
        List.replicate 23 '\n' ++ "# @jyro: a=1".toList)).take 25).all
          (fun line => line.all (!isLineBreak ·) && !decide (IsMarkedComment line)) = true := by
      decide +kernel
    intro line hline
    simpa using List.all_eq_true.1 hall line hline
  exact ⟨hlines, (directives_only_in_comments _).1 (fun line hline => (hlines line hline).1)
    fun line hline => (hlines line hline).2⟩

/-- A line separator inside of a string literal starts a line for directives, but not for the
analysis: this literal turns the option off, although no line of the script is a comment. -/
theorem flags_of_string_literal :
    (∀ line ∈ (splitLines
      "Data.x = \"\u2028# @jyro: warnOnHostFunctions=false\u2028\"".toList).take 25,
        ¬ IsMarkedComment line) ∧
    flags "Data.x = \"\u2028# @jyro: warnOnHostFunctions=false\u2028\"".toList =
      [("warnOnHostFunctions", .text "false")] ∧
    Options.resolve "Data.x = \"\u2028# @jyro: warnOnHostFunctions=false\u2028\"".toList [] [] =
      .ok ⟨false⟩ := by
  have hlines : ((splitLines
      "Data.x = \"\u2028# @jyro: warnOnHostFunctions=false\u2028\"".toList).take 25).all
        (fun line => !decide (IsMarkedComment line)) = true := by
    decide +kernel
  refine ⟨?_, rfl, rfl⟩
  intro line hline
  simpa using List.all_eq_true.1 hlines line hline

end Directive

end ScriptLint
