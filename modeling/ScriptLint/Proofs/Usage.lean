import ScriptLint.Analysis.Usage
import ScriptLint.Proofs.Findings
import ScriptLint.Proofs.Literal
import ScriptLint.Proofs.Rules

/-!
# Undefined names in terms of the line

Names are searched in the masked text of a line. `UndefinedUse` says in terms of the line itself
when a name is reported: where it stands, what stands around it, and what it must not be. The two
agree because masking keeps what stands next to a plain piece (`variableBetween_iff`), and because
the plain pieces before the comment are the characters outside of literals and before the first free
`#` (`mem_mentions_maskLine`). `undefined_names_exact` states this for all lines of a script.
-/

namespace ScriptLint

namespace Usage

/-! ## Names that stand for variables -/

/-- A call follows: blanks and an opening parenthesis. -/
def CallFollows (text : List Char) : Prop :=
  ∃ blanks rest, text = blanks ++ '(' :: rest ∧ ∀ c ∈ blanks, isBlank c = true

/-- A name stands for a variable between two texts: it starts with an ASCII letter or an underscore,
the word goes on to neither side, no dot stands before it and no call follows. -/
structure VariableBetween (before name after : List Char) : Prop where
  isName : IsName name
  wordStart : before.getLast?.any isWordChar = false
  wordEnd : after.head?.any isWordChar = false
  notAfterDot : before.getLast? ≠ some '.'
  notCalled : ¬ CallFollows after

/-- A call follows if the first character behind the blanks is an opening parenthesis. -/
theorem callFollows_iff {text : List Char} :
    CallFollows text ↔ (trimStart text).head? = some '(' := by
  constructor
  · rintro ⟨blanks, rest, rfl, hblanks⟩
    rw [trimStart, List.dropWhile_append_of_pos hblanks,
      List.dropWhile_cons_of_neg (by decide), List.head?_cons]
  · intro h
    obtain ⟨rest, hrest⟩ := List.head?_eq_some_iff.1 h
    refine ⟨text.takeWhile isBlank, rest, ?_, fun c hc => List.mem_takeWhile_imp hc⟩
    rw [← hrest, takeWhile_append_trimStart]

/-- A place is before a call if a call follows there. -/
theorem atCall_append {front after : List Char} :
    atCall (front ++ after) front.length = true ↔ CallFollows after := by
  rw [atCall, List.drop_left, callFollows_iff, Rules.callOpen]
  split <;> simp [*]

/-- A dot stands before a column if the text in front of it ends with one. -/
theorem afterDot_append {before rest : List Char} :
    afterDot (before ++ rest) before.length = true ↔ before.getLast? = some '.' := by
  rcases List.eq_nil_or_concat before with rfl | ⟨front, c, rfl⟩
  · exact iff_of_false Bool.false_ne_true nofun
  · simp [afterDot]

/-- The names found in a text are those that stand for variables there. -/
theorem mem_mentions {text : List Char} {mention : Mention} :
    mention ∈ mentions text ↔ ∃ before after, text = before ++ mention.name ++ after ∧
      before.length = mention.column ∧ VariableBetween before mention.name after := by
  rw [mentions, List.mem_filterMap]
  simp only [Option.ite_none_left_eq_some, Option.some.injEq, Bool.or_eq_true, not_or]
  constructor
  · rintro ⟨found, hfound, ⟨hdot, hcall⟩, rfl⟩
    obtain ⟨word, hword, hread, hwidth⟩ := mem_scan_wordRule.1 hfound
    simp only [Option.ite_none_right_eq_some, Option.some.injEq] at hread
    obtain ⟨hstart, rfl⟩ := hread
    obtain ⟨before, after, rfl, hcol, hisWord, hprev, hnext⟩ := hword
    rw [← hcol, List.append_assoc, afterDot_append] at hdot
    rw [← hcol, hwidth, ← List.length_append, atCall_append] at hcall
    exact ⟨before, after, rfl, hcol, ⟨hisWord, hstart⟩, hprev, hnext, hdot, hcall⟩
  · rintro ⟨before, after, rfl, hcol, h⟩
    refine ⟨⟨mention.column, mention.name.length, mention.name⟩, mem_scan_wordRule.2 ?_, ?_, rfl⟩
    · exact ⟨mention.name, ⟨before, after, rfl, hcol, h.isName.1, h.wordStart, h.wordEnd⟩,
        if_pos h.isName.2, rfl⟩
    · dsimp only
      rw [← hcol, ← List.length_append, atCall_append, List.append_assoc, afterDot_append]
      exact ⟨h.notAfterDot, h.notCalled⟩

/-- The names are found from left to right. -/
theorem pairwise_mentions (text : List Char) : (mentions text).Pairwise (·.column < ·.column) := by
  rw [mentions, List.pairwise_filterMap]
  refine (Rules.identifier.pairwise_scan text).imp
    fun hbefore mention hmention mention' hmention' => ?_
  simp only [Option.ite_none_left_eq_some, Option.some.injEq] at hmention hmention'
  rw [← hmention.2, ← hmention'.2]
  exact hbefore.1

/-! ## Names in the line and in its masked text -/

/-- A part of the front of a list that satisfies a test is followed by the rest of that front. -/
theorem eq_append_of_takeWhile_eq {α : Type} {test : α → Bool} {list front rest : List α}
    (h : list.takeWhile test = front ++ rest) :
    ∃ back, list = front ++ back ∧ back.takeWhile test = rest ∧ ∀ x ∈ front, test x = true := by
  have hstarts : front <+: list.takeWhile test := h ▸ List.prefix_append _ _
  have hfront : ∀ x ∈ front, test x = true := fun x hx =>
    List.mem_takeWhile_imp (hstarts.subset hx)
  obtain ⟨back, rfl⟩ := hstarts.trans (List.takeWhile_prefix test)
  rw [List.takeWhile_append_of_pos hfront] at h
  exact ⟨back, rfl, List.append_cancel_left h, hfront⟩

/-- Up to the comment, masking keeps what kind of character comes next. -/
theorem head?_any_shown (test : Char → Bool) (h : test commentMark = false) (rs : List Piece) :
    (maskedText (rs.takeWhile Piece.isShown)).head?.any test = (rawText rs).head?.any test := by
  cases rs with
  | nil => rfl
  | cons p rs =>
    cases p with
    | plain c =>
      by_cases hc : c = commentMark
      · subst hc
        simp [Piece.isShown, h]
      · rw [List.takeWhile_cons_of_pos (by simpa [Piece.isShown] using hc)]
        rfl
    | literal contents =>
      rw [List.takeWhile_cons_of_pos (by simp [Piece.isShown])]
      simp

/-- Up to the comment, masking keeps whether a call follows. -/
theorem callFollows_shown (rs : List Piece) :
    CallFollows (maskedText (rs.takeWhile Piece.isShown)) ↔ CallFollows (rawText rs) := by
  rw [callFollows_iff, callFollows_iff, trimStart, trimStart]
  induction rs with
  | nil => rfl
  | cons p rs ih =>
    cases p with
    | plain c =>
      by_cases hc : c = commentMark
      · subst hc
        have hhash : ¬ isBlank commentMark = true := by decide
        refine iff_of_false (by simp [Piece.isShown]) ?_
        rw [rawText_plain, List.dropWhile_cons_of_neg hhash, List.head?_cons]
        decide
      · rw [List.takeWhile_cons_of_pos (by simpa [Piece.isShown] using hc), maskedText_plain,
          rawText_plain]
        by_cases hblank : isBlank c = true
        · rw [List.dropWhile_cons_of_pos hblank, List.dropWhile_cons_of_pos hblank]
          exact ih
        · rw [List.dropWhile_cons_of_neg hblank, List.dropWhile_cons_of_neg hblank]
          rfl
    | literal contents =>
      have hquote : ¬ isBlank quoteMark = true := by decide
      rw [List.takeWhile_cons_of_pos (by simp [Piece.isShown]), maskedText_literal, rawText_literal,
        List.dropWhile_cons_of_neg hquote, List.dropWhile_cons_of_neg hquote]
      rfl

/-- A name stands for a variable in the masked text if it does so in the line. -/
theorem variableBetween_iff {qs rs : List Piece} {name : List Char} :
    VariableBetween (maskedText qs) name (maskedText (rs.takeWhile Piece.isShown)) ↔
      VariableBetween (rawText qs) name (rawText rs) := by
  have hlast := getLast?_maskedText qs
  have hnext := head?_any_shown isWordChar (by decide) rs
  have hcall := callFollows_shown rs
  constructor
  · intro h
    exact ⟨h.isName, hlast ▸ h.wordStart, hnext ▸ h.wordEnd, hlast ▸ h.notAfterDot,
      mt hcall.2 h.notCalled⟩
  · intro h
    exact ⟨h.isName, hlast ▸ h.wordStart, hnext ▸ h.wordEnd, hlast ▸ h.notAfterDot,
      mt hcall.1 h.notCalled⟩

/-- A name stands for a variable at a column of a line: outside of all closed literals, and before
the first `#` that is outside of them. -/
structure VariableAt (line : Line) (column : Nat) (name : List Char) : Prop where
  between : ∃ before after, line = before ++ name ++ after ∧ before.length = column ∧
    VariableBetween before name after
  outside : ∀ p, column ≤ p → p < column + name.length → ¬ InLiteral line p
  beforeComment : ∀ p, FreeAt line p commentMark → column + name.length ≤ p

/-- The names found in the masked text stand for variables in the line, at their raw columns. -/
theorem exists_variableAt_of_mem_mentions {line : Line} {mention : Mention}
    (h : mention ∈ mentions (maskLine .stringsFirst line).text) :
    ∃ column : Nat, (maskLine .stringsFirst line).rawColumn mention.column = column ∧
      VariableAt line column mention.name := by
  obtain ⟨ps, hps, rfl⟩ := exists_wellCut line
  have hshows := shows_stringsFirst hps
  obtain ⟨before, after, htext, hcol, hvar⟩ := mem_mentions.1 h
  obtain ⟨qs, shown, htake, rfl, rfl⟩ := exists_pieces_of_maskedText (hshows.text_eq ▸ htext)
    hvar.isName.1.1 hvar.isName.1.quoteMark_notMem
  have hraw := hshows.rawColumn_eq qs (htake ▸ List.append_assoc _ _ _ ▸ List.prefix_append _ _)
  obtain ⟨rs, rfl, rfl, hshown⟩ := eq_append_of_takeWhile_eq htake
  have hlen : (rawText (qs ++ mention.name.map .plain)).length =
      (rawText qs).length + mention.name.length := by
    rw [rawText_append, rawText_map_plain, List.length_append]
  refine ⟨(rawText qs).length, hcol ▸ hraw, ⟨rawText qs, rawText rs, by simp, rfl,
    variableBetween_iff.1 hvar⟩, fun p => not_inLiteral_of_plain hps, fun p hp => ?_⟩
  rw [← hlen]
  exact (forall_isShown_iff hps).1 hshown p hp

/-- Where a name stands for a variable in the line, it is found in the masked text. -/
theorem VariableAt.exists_mem_mentions {line : Line} {column : Nat} {name : List Char}
    (h : VariableAt line column name) :
    ∃ mention ∈ mentions (maskLine .stringsFirst line).text, mention.name = name ∧
      (maskLine .stringsFirst line).rawColumn mention.column = column := by
  obtain ⟨ps, hps, rfl⟩ := exists_wellCut line
  have hshows := shows_stringsFirst hps
  obtain ⟨before, after, heq, rfl, hvar⟩ := h.between
  have hpos := List.length_pos_iff.2 hvar.isName.1.1
  obtain ⟨qs, rs, rfl, rfl, rfl⟩ := exists_pieces_of_rawText hps heq hvar.isName.1.1
    hvar.isName.1.quoteMark_notMem (h.outside _ (Nat.le_refl _) (by omega))
  have hlen : (rawText (qs ++ name.map .plain)).length = (rawText qs).length + name.length := by
    rw [rawText_append, rawText_map_plain, List.length_append]
  have hshown : ∀ p ∈ qs ++ name.map .plain, p.isShown = true :=
    (forall_isShown_iff hps).2 fun p hp => hlen ▸ h.beforeComment p hp
  rw [List.takeWhile_append_of_pos hshown] at hshows
  refine ⟨⟨name, (maskedText qs).length⟩, mem_mentions.2 ⟨maskedText qs, _, ?_, rfl,
    variableBetween_iff.2 hvar⟩, rfl, hshows.rawColumn_eq qs ?_⟩
  · rw [hshows.text_eq, maskedText_append, maskedText_append, maskedText_map_plain]
  · rw [List.append_assoc]
    exact List.prefix_append _ _

/-- Of two names found in the masked text, the later one stands behind the other in the line. -/
theorem rawColumn_lt_of_mem_mentions {line : Line} {a b : Mention}
    (ha : a ∈ mentions (maskLine .stringsFirst line).text)
    (hb : b ∈ mentions (maskLine .stringsFirst line).text) (hlt : a.column < b.column) :
    (maskLine .stringsFirst line).rawColumn a.column <
      (maskLine .stringsFirst line).rawColumn b.column := by
  obtain ⟨ps, -, hshows⟩ := exists_shows_maskLine .stringsFirst line
  have hplace {mention : Mention} (h : mention ∈ mentions (maskLine .stringsFirst line).text) :
      ∃ qs, qs <+: ps ∧ (maskedText qs).length = mention.column := by
    obtain ⟨before, after, htext, hcol, hvar⟩ := mem_mentions.1 h
    obtain ⟨qs, rs, rfl, rfl, -⟩ := exists_pieces_of_maskedText (hshows.text_eq ▸ htext)
      hvar.isName.1.1 hvar.isName.1.quoteMark_notMem
    exact ⟨qs, List.append_assoc _ _ _ ▸ List.prefix_append _ _, hcol⟩
  obtain ⟨qs, hqs, hqcol⟩ := hplace ha
  obtain ⟨us, hus, hucol⟩ := hplace hb
  rw [← hqcol, ← hucol] at hlt ⊢
  exact hshows.rawColumn_lt hqs hus hlt

/-! ## Undefined names -/

/-- A name is not accounted for: it is not reserved, no type, no function up to case, no symbol and
not the root binding. -/
structure Unaccounted (registry : Registry) (symbols : List Symbol) (name : String) : Prop where
  notKeyword : name ∉ keywords
  notType : name ∉ typeNames
  notFunction : registry.hasName name = false
  notSymbol : ∀ symbol ∈ symbols, symbol.name ≠ name
  notRoot : name ≠ rootBinding

/-- The tests for reserved and declared names leave the names that nothing accounts for. -/
theorem unaccounted_iff {registry : Registry} {symbols : List Symbol} {name : String} :
    ¬ (isReserved registry name || (declaredNames symbols).contains name) = true ↔
      Unaccounted registry symbols name := by
  simp only [isReserved, declaredNames, Bool.or_eq_true, List.contains_iff_mem, List.mem_append,
    List.mem_map, List.mem_singleton, not_or, Bool.not_eq_true]
  constructor
  · rintro ⟨⟨⟨hkeyword, htype⟩, hfunction⟩, hsymbol, hroot⟩
    exact ⟨hkeyword, htype, hfunction, fun symbol hmem heq => hsymbol ⟨symbol, hmem, heq⟩, hroot⟩
  · rintro ⟨hkeyword, htype, hfunction, hsymbol, hroot⟩
    exact ⟨⟨⟨hkeyword, htype⟩, hfunction⟩, fun ⟨symbol, hmem, heq⟩ => hsymbol symbol hmem heq,
      hroot⟩

/-- An undefined name is used at a column of a line that takes part in the analysis. -/
structure UndefinedUse (registry : Registry) (symbols : List Symbol) (line : Line) (column : Nat)
    (name : List Char) : Prop where
  visible : isSkippable line = false
  variableAt : VariableAt line column name
  unaccounted : Unaccounted registry symbols (String.ofList name)

section Findings
variable {registry : Registry} {symbols : List Symbol}

/-- The findings on a line are its uses of undefined names. -/
theorem mem_lineFindings {i : Nat} {line : Line} {f : Finding} :
    f ∈ lineFindings registry (declaredNames symbols) i line ↔
      ∃ (column : Nat) (name : List Char), UndefinedUse registry symbols line column name ∧
        f = ⟨i, column, column + name.length, .undefinedVariable (String.ofList name)⟩ := by
  unfold lineFindings Symbols.masked?
  cases hskip : isSkippable line with
  | true =>
    refine iff_of_false (by simp) ?_
    rintro ⟨column, name, huse, -⟩
    exact absurd (hskip.symm.trans huse.visible) (by decide)
  | false =>
    simp only [Bool.false_eq_true, if_false]
    rw [maskedFindings, List.mem_filterMap]
    simp only [Option.ite_none_left_eq_some, Option.some.injEq, unaccounted_iff]
    constructor
    · rintro ⟨mention, hmention, hname, rfl⟩
      obtain ⟨column, hcolumn, hvar⟩ := exists_variableAt_of_mem_mentions hmention
      exact ⟨column, mention.name, ⟨hskip, hvar, hname⟩, by rw [hcolumn]⟩
    · rintro ⟨column, name, huse, rfl⟩
      obtain ⟨mention, hmention, rfl, hcolumn⟩ := huse.variableAt.exists_mem_mentions
      exact ⟨mention, hmention, huse.unaccounted, by rw [hcolumn]⟩

/-- The findings on a line come from left to right. -/
theorem pairwise_lineFindings (i : Nat) (line : Line) :
    (lineFindings registry (declaredNames symbols) i line).Pairwise (·.start < ·.start) := by
  unfold lineFindings Symbols.masked?
  split
  · exact .nil
  · rename_i masked hmasked
    simp only [Option.ite_none_left_eq_some, Option.some.injEq] at hmasked
    obtain ⟨-, rfl⟩ := hmasked
    rw [maskedFindings, List.pairwise_filterMap]
    refine (pairwise_mentions _).imp_of_mem fun ha hb hlt f hf g hg => ?_
    simp only [Option.ite_none_left_eq_some, Option.some.injEq] at hf hg
    rw [← hf.2, ← hg.2]
    exact rawColumn_lt_of_mem_mentions ha hb hlt

end Findings

/-- The undefined names from a line on are those of each line. -/
theorem validateFrom_eq (registry : Registry) (declared : List String) (k : Nat)
    (lines : List Line) :
    validateFrom registry declared k lines =
      (lines.mapIdx fun i line => lineFindings registry declared (k + i) line).flatten := by
  induction lines generalizing k with
  | nil => rfl
  | cons line lines ih =>
    rw [validateFrom, ih, List.mapIdx_cons, List.flatten_cons]
    simp only [Nat.add_zero, Nat.add_assoc, Nat.add_comm 1]

/-- The undefined names of a script are those of each line. -/
theorem validate_eq (registry : Registry) (symbols : List Symbol) (lines : List Line) :
    validate registry symbols lines =
      (lines.mapIdx fun i line =>
        lineFindings registry (declaredNames symbols) i line).flatten := by
  rw [validate, validateFrom_eq]
  simp only [Nat.zero_add]

/-- The findings of a script are the uses of undefined names on its lines. -/
theorem mem_validate {registry : Registry} {symbols : List Symbol} {lines : List Line}
    {f : Finding} : f ∈ validate registry symbols lines ↔
      ∃ (i : Nat) (line : Line) (column : Nat) (name : List Char), lines[i]? = some line ∧
        UndefinedUse registry symbols line column name ∧
        f = ⟨i, column, column + name.length, .undefinedVariable (String.ofList name)⟩ := by
  rw [validate_eq, mem_flatten_mapIdx]
  constructor
  · rintro ⟨i, line, hline, hf⟩
    obtain ⟨column, name, huse, rfl⟩ := mem_lineFindings.1 hf
    exact ⟨i, line, column, name, hline, huse, rfl⟩
  · rintro ⟨i, line, column, name, hline, huse, rfl⟩
    exact ⟨i, line, hline, mem_lineFindings.2 ⟨column, name, huse, rfl⟩⟩

/-- The findings of a script are ordered by line and on a line by column. -/
theorem pairwise_validate (registry : Registry) (symbols : List Symbol) (lines : List Line) :
    (validate registry symbols lines).Pairwise Finding.Before := by
  rw [validate_eq]
  refine pairwise_flatten_mapIdx (k := 0) (fun i line f hf => ?_) pairwise_lineFindings lines
  obtain ⟨column, name, -, rfl⟩ := mem_lineFindings.1 hf
  exact (Nat.zero_add i).symm

/-- **Undefined names are exact.** The findings of a script are the uses of undefined names on its
lines, each of them once, ordered by line and on a line by column. -/
theorem undefined_names_exact (registry : Registry) (symbols : List Symbol) (lines : List Line) :
    (∀ f, f ∈ validate registry symbols lines ↔
      ∃ (i : Nat) (line : Line) (column : Nat) (name : List Char), lines[i]? = some line ∧
        UndefinedUse registry symbols line column name ∧
        f = ⟨i, column, column + name.length, .undefinedVariable (String.ofList name)⟩) ∧
    (validate registry symbols lines).Pairwise Finding.Before := by
  exact ⟨fun f => mem_validate, pairwise_validate registry symbols lines⟩

end Usage

end ScriptLint
