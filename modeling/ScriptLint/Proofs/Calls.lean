import ScriptLint.Proofs.Nesting
import ScriptLint.Proofs.Usage

/-!
# Calls in terms of the line

The check searches for calls in the text up to the first `#` of a line, and the search for undefined
names goes on behind a `#` that stands in a literal. So the two passes may see different texts of
one line, and take columns back to it by different shifts. What they report is still about the line:
a call found in a masked text, in either order of masking, is a whole word of the line with an
opening parenthesis behind it (`exists_calledAt_of_mem_scan`), and a name that stands for a variable
is a whole word of the line without one. Two such words are apart (`CalledAt.apart`).

`call_notes_apart_from_undefined_names` states this for the findings of the two passes.
-/

namespace ScriptLint

open Usage (CallFollows VariableAt)

/-! ## Calls in a line -/

/-- A function is called at a column of a line: its name is a word that does not start earlier, and
a call follows. -/
structure CalledAt (line : Line) (column : Nat) (name : List Char) : Prop where
  isWord : IsWord name
  between : ∃ before after, line = before ++ name ++ after ∧ before.length = column ∧
    before.getLast?.any isWordChar = false ∧ CallFollows after

/-- No word goes on where a call follows. -/
theorem Usage.CallFollows.head?_any {text : List Char} (h : CallFollows text) :
    text.head?.any isWordChar = false := by
  obtain ⟨blanks, rest, rfl, hblanks⟩ := h
  cases blanks with
  | nil => exact (by decide : isWordChar '(' = false)
  | cons c blanks => exact isWordChar_eq_false_of_isBlank (hblanks c List.mem_cons_self)

/-- The name of a call does not start inside a word, and a call follows behind it. -/
theorem Rules.callFollows_of_hostCall {prev : Option Char} {cs name : List Char} {width : Nat}
    (h : hostCall prev cs = some (width, name)) :
    prev.any isWordChar = false ∧ ∃ after, cs = name ++ after ∧ CallFollows after := by
  simp only [hostCall, Option.ite_none_left_eq_some, Option.ite_none_right_eq_some,
    Option.some.injEq, Prod.mk.injEq, Bool.or_eq_true, not_or, Bool.not_eq_true] at h
  obtain ⟨⟨hprev, -⟩, hcall, -, rfl⟩ := h
  exact ⟨hprev, cs.dropWhile isAsciiAlnum, List.takeWhile_append_dropWhile.symm,
    Usage.callFollows_iff.2 hcall⟩

/-- The calls found in a masked text are calls in the line, at their raw columns. -/
theorem exists_calledAt_of_mem_scan {order : MaskOrder} {line : Line} {call : Found (List Char)}
    (h : call ∈ Rules.hostCall.scan (maskLine order line).text) :
    ∃ column : Nat, (maskLine order line).rawColumn call.column = column ∧
      CalledAt line column call.value := by
  obtain ⟨before, rest, htext, -, hcol, hrule⟩ := Rule.matchesAt_of_mem_scan h
  obtain ⟨hword, -⟩ := Rules.hostCall_eq_some hrule
  obtain ⟨hprev, after, rfl, blanks, behind, rfl, hblanks⟩ := Rules.callFollows_of_hostCall hrule
  -- the name, the blanks and the parenthesis have no quotes, so they are plain pieces of the line
  have hquote : quoteMark ∉ call.value ++ (blanks ++ ['(']) := by
    simp only [List.mem_append, List.mem_singleton, not_or]
    refine ⟨hword.quoteMark_notMem, ?_, by decide⟩
    intro hmem
    exact absurd (hblanks _ hmem) (by decide)
  obtain ⟨ps, -, hshows⟩ := exists_shows_maskLine order line
  have hshown : maskedText ps = before ++ (call.value ++ (blanks ++ ['('])) ++ behind := by
    rw [← hshows.text_eq, htext]
    simp
  obtain ⟨qs, rs, rfl, rfl, -⟩ := exists_pieces_of_maskedText hshown (by simp) hquote
  obtain ⟨hidden, hraw⟩ := hshows.raw_prefix
  have hplace : qs <+: qs ++ (call.value ++ (blanks ++ ['('])).map .plain ++ rs := by
    rw [List.append_assoc]
    exact List.prefix_append _ _
  refine ⟨(rawText qs).length, hcol ▸ hshows.rawColumn_eq qs hplace, hword, rawText qs,
    blanks ++ '(' :: (rawText rs ++ hidden), ?_, rfl, ?_, blanks, _, rfl, hblanks⟩
  · rw [← raw_maskLine order line, ← hraw]
    simp
  · rwa [← getLast?_maskedText]

/-! ## Calls and variables are apart -/

/-- The name of a call is a whole word. -/
theorem CalledAt.wordAt {line : Line} {column : Nat} {name : List Char}
    (h : CalledAt line column name) : WordAt line column name := by
  obtain ⟨before, after, heq, hlen, hprev, hfollows⟩ := h.between
  exact ⟨before, after, heq, hlen, h.isWord, hprev, hfollows.head?_any⟩

/-- The name of a variable is a whole word. -/
theorem Usage.VariableAt.wordAt {line : Line} {column : Nat} {name : List Char}
    (h : VariableAt line column name) : WordAt line column name := by
  obtain ⟨before, after, heq, hlen, hvar⟩ := h.between
  exact ⟨before, after, heq, hlen, hvar.isName.1, hvar.wordStart, hvar.wordEnd⟩

/-- What is called at a column is no variable there. -/
theorem CalledAt.not_variableAt {line : Line} {column : Nat} {name name' : List Char}
    (hcall : CalledAt line column name) : ¬ VariableAt line column name' := by
  intro hvar
  obtain ⟨before, after, heq, hlen, -, hfollows⟩ := hcall.between
  obtain ⟨before', after', heq', hlen', hvar⟩ := hvar.between
  rw [heq, List.append_assoc, List.append_assoc] at heq'
  obtain ⟨-, htail⟩ := List.append_inj heq' (hlen.trans hlen'.symm)
  -- both names are the run of word characters from the column on
  have hname : name = name' := by
    rw [← takeWhile_run hcall.isWord.2 hfollows.head?_any, htail,
      takeWhile_run hvar.isName.1.2 hvar.wordEnd]
  subst hname
  exact hvar.notCalled (List.append_cancel_left htail ▸ hfollows)

/-- The name of a call and a name that stands for a variable do not overlap. -/
theorem CalledAt.apart {line : Line} {a b : Nat} {name name' : List Char}
    (hcall : CalledAt line a name) (hvar : VariableAt line b name') :
    a + name.length ≤ b ∨ b + name'.length ≤ a := by
  rcases Nat.lt_trichotomy a b with hlt | heq | hlt
  · exact .inl (hcall.wordAt.disjoint hvar.wordAt hlt)
  · subst heq
    exact absurd hvar hcall.not_variableAt
  · exact .inr (hvar.wordAt.disjoint hcall.wordAt hlt)

/-! ## The findings of the two passes -/

/-- Only calls of functions that the host provides are mere information. -/
theorem Issue.kind_of_severity_information {issue : Issue} (h : issue.severity = .information) :
    issue.kind = .hostFunction := by
  cases issue with
  | hostFunction name => rfl
  | _ => cases h

namespace Structure

variable {registry : Registry} {hostNotes : Bool} {lines : List Line}

/-- The notes about calls on a line are those of the rule for calls. -/
theorem filter_hostFunction_check (i : Nat) :
    (check registry hostNotes lines).filter (fun f => f.line = i ∧ f.issue.kind = .hostFunction) =
      if isSkippable (lines.getD i []) then []
      else if hostNotes then callFindings registry i (maskLine .commentFirst (lines.getD i []))
      else [] := by
  refine filter_rule_check (by decide) ?_
  intro hskip
  exact filter_kind_lineFindings registry hostNotes i _ hskip .hostFunction

/-- A note about a call covers the name of a call in its line. -/
theorem exists_calledAt_of_mem_check {f : Finding} (hf : f ∈ check registry hostNotes lines)
    (hkind : f.issue.kind = .hostFunction) :
    ∃ (column : Nat) (name : List Char), CalledAt (lines.getD f.line []) column name ∧
      f.start = column ∧ f.stop = column + name.length := by
  have hmem : f ∈ (check registry hostNotes lines).filter
      (fun g => g.line = f.line ∧ g.issue.kind = .hostFunction) :=
    List.mem_filter.2 ⟨hf, decide_eq_true ⟨rfl, hkind⟩⟩
  rw [filter_hostFunction_check] at hmem
  split at hmem
  · cases hmem
  · split at hmem
    · obtain ⟨call, hcall, hf⟩ := List.mem_filterMap.1 hmem
      simp only [Option.ite_none_right_eq_some, Option.some.injEq] at hf
      obtain ⟨column, hcolumn, hcalled⟩ := exists_calledAt_of_mem_scan hcall
      refine ⟨column, call.value, hcalled, ?_, ?_⟩
      · rw [← hf.2, ← hcolumn]
      · rw [← hf.2, ← hcolumn]
    · cases hmem

end Structure

/-- **No token is reported twice.** On a line, the ranges of the notes about calls and of the
undefined names do not overlap, whatever functions each of the two passes knows and whatever symbols
there are. -/
theorem call_notes_apart_from_undefined_names (registry registry' : Registry) (hostNotes : Bool)
    (symbols : List Symbol) (lines : List Line) {f g : Finding}
    (hf : f ∈ Structure.check registry hostNotes lines) (hnote : f.issue.severity = .information)
    (hg : g ∈ Usage.validate registry' symbols lines) (hline : f.line = g.line) :
    f.stop ≤ g.start ∨ g.stop ≤ f.start := by
  obtain ⟨a, name, hcall, hstart, hstop⟩ :=
    Structure.exists_calledAt_of_mem_check hf (Issue.kind_of_severity_information hnote)
  obtain ⟨i, line, b, name', hget, huse, rfl⟩ := Usage.mem_validate.1 hg
  have hgetD : lines.getD f.line [] = line := by
    rw [hline, List.getD_eq_getElem?_getD, hget]
    rfl
  rw [hgetD] at hcall
  have hapart := hcall.apart huse.variableAt
  rw [hstart, hstop]
  show (a : Int) + name.length ≤ b ∨ (b : Int) + name'.length ≤ a
  omega

/-- In the check the first `#` ends this line behind `Foo`, and in the search for undefined names it
does not, so that `bar` is found behind it. -/
theorem call_notes_apart_from_undefined_names_around_mark :
    Finding.mk 0 0 3 (.hostFunction "Foo") ∈
      Structure.check .empty true ["Foo(\"#\" + Bar(bar))".toList] ∧
    Finding.mk 0 14 17 (.undefinedVariable "bar") ∈
      Usage.validate .empty [] ["Foo(\"#\" + Bar(bar))".toList] ∧
    ((3 : Int) ≤ 14 ∨ (17 : Int) ≤ 0) := by
  have hf : Finding.mk 0 0 3 (.hostFunction "Foo") ∈
      Structure.check .empty true ["Foo(\"#\" + Bar(bar))".toList] := by decide +kernel
  have hg : Finding.mk 0 14 17 (.undefinedVariable "bar") ∈
      Usage.validate .empty [] ["Foo(\"#\" + Bar(bar))".toList] := by decide +kernel
  exact ⟨hf, hg, call_notes_apart_from_undefined_names .empty .empty true [] _ hf rfl hg rfl⟩

end ScriptLint
