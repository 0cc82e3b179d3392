import ScriptLint.Analysis.Session
import ScriptLint.Proofs.Alignment
import ScriptLint.Proofs.Columns
import ScriptLint.Proofs.Position

/-!
# Contents of strings and comments do not interfere

What stands inside a string literal or a comment has no influence on the analysis, with two
exceptions that come from how lines are read. In the check the first `#` of a line ends it even
inside a literal, so `string_contents_inert` needs literals without one there. And the quotes of a
line are counted in its comment as well, so in `comment_contents_inert` the comment decides whether
the line has an unclosed string.

Rules that read the line as it is stop at the first quote or `#`, so they do not see what is behind
it (`leadingType_append_stop`, `isSkippable_append_stop`). All other rules read a masked text, and
this text is the same; only the columns of the line may differ.
-/

namespace ScriptLint

/-! ## The front of a line -/

/-- A character that no rule for the start of a line reads past. -/
structure IsStop (stop : Char) : Prop where
  blank : isBlank stop = false
  word : isWordChar stop = false
  colon : (stop == ':') = false

/-- A quote ends every name and every run of blanks. -/
theorem isStop_quoteMark : IsStop quoteMark := ⟨by decide, by decide, by decide⟩

/-- A comment mark ends every name and every run of blanks. -/
theorem isStop_commentMark : IsStop commentMark := ⟨by decide, by decide, by decide⟩

section
variable {stop : Char} (hstop : IsStop stop)
include hstop

/-- The blanks at the front end before a stop. -/
theorem trimStart_append_stop (front rest : List Char) :
    trimStart (front ++ stop :: rest) = trimStart front ++ stop :: rest :=
  dropWhile_append_stop hstop.blank front rest

/-- The indentation ends before a stop. -/
theorem indent_append_stop (front rest : List Char) :
    indent (front ++ stop :: rest) = indent front := by
  rw [indent, indent, takeWhile_append_stop hstop.blank]

/-- Whether a line is skippable does not depend on what stands behind a stop. -/
theorem isSkippable_append_stop (front rest : List Char) :
    isSkippable (front ++ stop :: rest) = isSkippable (front ++ [stop]) := by
  rw [isSkippable, isSkippable, trimStart_append_stop hstop, trimStart_append_stop hstop]
  cases trimStart front with
  | nil => rfl
  | cons c cs => rfl

namespace Rules

omit hstop in
/-- A text is looked for in front of a character that it does not have. -/
theorem afterText?_append_stop {word : List Char} (hword : stop ∉ word) (front rest : List Char) :
    afterText? word (front ++ stop :: rest) = (afterText? word front).map (· ++ stop :: rest) := by
  cases h : afterText? word front with
  | some behind =>
    rw [afterText?_eq_some_iff.1 h, Option.map_some, afterText?_eq_some_iff, List.append_assoc]
  | none =>
    rw [Option.map_none, Option.eq_none_iff_forall_not_mem]
    intro behind hbehind
    have hnone (t : List Char) : front ≠ word ++ t := fun heq => by
      rw [afterText?_eq_some_iff.2 heq] at h
      cases h
    rcases List.append_eq_append_iff.1 (afterText?_eq_some_iff.1 hbehind) with
      ⟨t, rfl, ht⟩ | ⟨t, heq, -⟩
    · cases t with
      | nil => exact hnone [] (by simp)
      | cons c t =>
        rw [List.cons_append, List.cons.injEq] at ht
        exact hword (ht.1 ▸ List.mem_append_right _ List.mem_cons_self)
    · exact hnone t heq

/-- A type is not named behind a stop. -/
theorem typeSuffix?_append_stop (front rest : List Char) :
    typeSuffix? (front ++ stop :: rest) = typeSuffix? front := by
  rw [typeSuffix?, typeSuffix?, trimStart_append_stop hstop, takeWhile_append_stop hstop.blank]
  cases trimStart front with
  | nil => simp only [List.nil_append, hstop.colon, Bool.false_and, Bool.false_eq_true, if_false]
  | cons c cs =>
    simp only [List.cons_append, trimStart_append_stop hstop, takeWhile_append_stop hstop.blank,
      takeWhile_append_stop hstop.word]

/-- A declaration ends before a stop. -/
theorem declaration?_append_stop (front rest : List Char) :
    declaration? (front ++ stop :: rest) = declaration? front := by
  have hvar : stop ∉ "var".toList := by
    intro hmem
    have hall : ∀ c ∈ "var".toList, isWordChar c = true := List.all_eq_true.1 (by decide)
    exact absurd ((hall stop hmem).symm.trans hstop.word) (by decide)
  rw [declaration?, declaration?, afterText?_append_stop hvar]
  cases afterText? "var".toList front with
  | none => rfl
  | some behind =>
    simp only [Option.map_some, trimStart_append_stop hstop, takeWhile_append_stop hstop.blank,
      takeWhile_append_stop hstop.word, dropWhile_append_stop hstop.word,
      typeSuffix?_append_stop hstop]

/-- The type of a declaration at the front ends before a stop. -/
theorem leadingType_append_stop (front rest : List Char) :
    leadingType none (front ++ stop :: rest) = leadingType none front := by
  rw [leadingType, leadingType, trimStart_append_stop hstop, declaration?_append_stop hstop,
    takeWhile_append_stop hstop.blank]

end Rules

/-- An unknown type is named before a stop. -/
theorem Structure.typeFindings_append_stop (i : Nat) (front rest : List Char) :
    typeFindings i (front ++ stop :: rest) = typeFindings i front := by
  rw [typeFindings, typeFindings, Rules.leadingType_append_stop hstop]

end

/-! ## Contents of strings -/

/-- Two lines that differ in the contents of their closed literals only. The contents on both sides
have no quotes and consist of allowed characters. -/
inductive Reworded (allowed : Char → Prop) : Line → Line → Prop where
  /-- At most one quote is left, so there is no literal. -/
  | rest {rest : List Char} (h : rest.count quoteMark ≤ 1) : Reworded allowed rest rest
  /-- The first literal has other contents. -/
  | literal {front contents contents' rest rest' : List Char} (hfront : quoteMark ∉ front)
      (hcontents : ∀ c ∈ contents, c ≠ quoteMark ∧ allowed c)
      (hcontents' : ∀ c ∈ contents', c ≠ quoteMark ∧ allowed c)
      (hrest : Reworded allowed rest rest') :
      Reworded allowed (front ++ quoteMark :: (contents ++ quoteMark :: rest))
        (front ++ quoteMark :: (contents' ++ quoteMark :: rest'))

namespace Reworded

variable {allowed : Char → Prop} {line line' : Line}

/-- A line with other string contents is skippable if the first is. -/
theorem isSkippable_eq (h : Reworded allowed line line') :
    isSkippable line' = isSkippable line := by
  cases h with
  | rest => rfl
  | literal =>
    exact (isSkippable_append_stop isStop_quoteMark _ _).trans
      (isSkippable_append_stop isStop_quoteMark _ _).symm

/-- Lines that differ in string contents name the same unknown types. -/
theorem typeFindings_eq (h : Reworded allowed line line') (i : Nat) :
    Structure.typeFindings i line' = Structure.typeFindings i line := by
  cases h with
  | rest => rfl
  | literal =>
    rw [Structure.typeFindings_append_stop isStop_quoteMark,
      Structure.typeFindings_append_stop isStop_quoteMark]

/-- Lines that differ in string contents have the same number of quotes. -/
theorem count_quoteMark_eq (h : Reworded allowed line line') :
    line'.count quoteMark = line.count quoteMark := by
  induction h with
  | rest => rfl
  | literal _ hcontents hcontents' _ ih =>
    have hnone : quoteMark ∉ _ := fun hmem => (hcontents _ hmem).1 rfl
    have hnone' : quoteMark ∉ _ := fun hmem => (hcontents' _ hmem).1 rfl
    simp only [List.count_append, List.count_cons_self, List.count_eq_zero.2 hnone,
      List.count_eq_zero.2 hnone', ih]

/-- Lines that differ in string contents are the same without them. -/
theorem hideStrings_eq (h : Reworded allowed line line') :
    hideStrings line' = hideStrings line := by
  induction h with
  | rest => rfl
  | literal hfront hcontents hcontents' _ ih =>
    rw [hideStrings_append hfront, hideStrings_append hfront,
      hideStrings_literal fun hmem => (hcontents _ hmem).1 rfl,
      hideStrings_literal fun hmem => (hcontents' _ hmem).1 rfl, ih]

/-- Lines that differ in string contents have the same masked text. -/
theorem text_stringsFirst_eq (h : Reworded allowed line line') :
    (maskLine .stringsFirst line').text = (maskLine .stringsFirst line).text :=
  congrArg cutComment h.hideStrings_eq

/-- Where a literal may not have a `#`, the comment that the check cuts off starts at the same
place. -/
theorem codeText_eq (h : Reworded allowed line line') (hmark : ¬ allowed commentMark) :
    codeText line' = codeText line := by
  show hideStrings (cutComment line') = hideStrings (cutComment line)
  induction h with
  | rest => rfl
  | @literal front _ _ _ _ hfront hcontents hcontents' _ ih =>
    by_cases hmem : commentMark ∈ front
    · obtain ⟨before, after, rfl⟩ := List.append_of_mem hmem
      simp only [List.append_assoc, List.cons_append, cutComment_commentMark]
    · have hcut {contents : List Char} (hcontents : ∀ c ∈ contents, c ≠ quoteMark ∧ allowed c)
          (rest : List Char) :
          hideStrings (cutComment (front ++ quoteMark :: (contents ++ quoteMark :: rest))) =
            front ++ quoteMark :: quoteMark :: hideStrings (cutComment rest) := by
        have hnone : commentMark ∉ quoteMark :: (contents ++ [quoteMark]) := by
          simp only [List.mem_cons, List.mem_append, List.not_mem_nil, or_false, not_or]
          exact ⟨by decide, fun hc => hmark (hcontents _ hc).2, by decide⟩
        have hkeep := cutComment_append hnone rest
        simp only [List.cons_append, List.append_assoc, List.nil_append] at hkeep
        rw [cutComment_append hmem, hkeep, hideStrings_append hfront,
          hideStrings_literal fun hc => (hcontents _ hc).1 rfl]
      rw [hcut hcontents, hcut hcontents', ih]

end Reworded

/-! ## Scripts with other string contents -/

section
variable {allowed : Char → Prop}

namespace Structure

/-- The check does not tell apart lines with other string contents, but for columns, if no contents
have a `#`. -/
theorem simulation_of_reworded (registry : Registry) (hmark : ¬ allowed commentMark) :
    Simulation registry (fun i i' line line' => i' = i ∧ Reworded allowed line line')
      (fun b b' => b'.kind = b.kind ∧ b'.line = b.line)
      (fun f => some f.eraseColumns) (fun f => some f.eraseColumns) where
  lookAlike := by
    rintro i i' line line' ⟨rfl, h⟩
    have htext := h.codeText_eq hmark
    refine ⟨h.isSkippable_eq, by rw [htext], by rw [htext], by rw [htext], by rw [htext],
      fun _ => ?_, fun _ => rfl, fun _ _ => rfl, by rw [h.typeFindings_eq], ?_⟩
    · rw [quoteFindings, quoteFindings, h.count_quoteMark_eq]
      split <;> rfl
    · rw [callFindings_eq, callFindings_eq registry i' (maskLine .commentFirst line),
        show (maskLine .commentFirst line').text = _ from htext, List.filterMap_map,
        List.filterMap_map]
      rfl
  opened := by
    rintro i i' line line' ⟨rfl, -⟩ kind
    exact ⟨rfl, rfl⟩
  kind_eq := fun b b' h => h.1
  unclosed := by
    rintro b b' ⟨hkind, hline⟩
    rw [hkind, hline]
    rfl

/-- The checks by lines find the same in lines that differ in string contents, up to columns. -/
theorem check_of_reworded (registry : Registry) (hmark : ¬ allowed commentMark) (hostNotes : Bool)
    {lines lines' : List Line} (h : List.Forall₂ (Reworded allowed) lines lines') :
    (check registry hostNotes lines').map (·.eraseColumns) =
      (check registry hostNotes lines).map (·.eraseColumns) := by
  have hcheck := (simulation_of_reworded registry hmark).filterMap_check hostNotes (.of_forall₂ h 0)
  rwa [List.filterMap_eq_map'] at hcheck

end Structure

/-- Lines that differ in string contents have the same symbols, up to columns. -/
theorem Symbols.extract_of_reworded {lines lines' : List Line}
    (h : List.Forall₂ (Reworded allowed) lines lines') :
    (extract lines').map (·.eraseColumn) = (extract lines).map (·.eraseColumn) := by
  refine map_extractFrom ?_ ?_ (.of_forall₂ h 0) []
  · rintro i i' line line' ⟨rfl, h⟩
    refine pathsOf_eq h.isSkippable_eq ?_
    rw [map_path_writes, map_path_writes, h.text_stringsFirst_eq]
  · rintro i i' line line' ⟨rfl, h⟩ seen
    refine map_ofLine h.isSkippable_eq ?_
    rw [ofMasked_eq (rawColumn_le_iff _ _), ofMasked_eq (rawColumn_le_iff _ line),
      h.text_stringsFirst_eq, List.map_map, List.map_map]
    rfl

/-- Lines that differ in string contents use the same undefined names, up to columns. -/
theorem Usage.validate_of_reworded (registry : Registry) (symbols : List Symbol)
    {lines lines' : List Line} (h : List.Forall₂ (Reworded allowed) lines lines') :
    (validate registry symbols lines').map (·.eraseColumns) =
      (validate registry symbols lines).map (·.eraseColumns) := by
  refine map_validateFrom ?_ (.of_forall₂ h 0)
  rintro i i' line line' ⟨rfl, h⟩
  refine map_lineFindings h.isSkippable_eq ?_
  rw [maskedFindings_eq, maskedFindings_eq _ _ _ (maskLine .stringsFirst line),
    h.text_stringsFirst_eq, List.map_map, List.map_map]
  rfl

end

/-- **String contents do not interfere.** In two scripts that differ in the contents of closed
literals only, the symbols and the undefined names are the same but for columns. If no contents have
a `#`, this holds for the check and so for the whole analysis. -/
theorem string_contents_inert (registry : Registry) (options : Options) {allowed : Char → Prop}
    {lines lines' : List Line} (h : List.Forall₂ (Reworded allowed) lines lines') :
    (Symbols.extract lines').map (·.eraseColumn) = (Symbols.extract lines).map (·.eraseColumn) ∧
    (Usage.validate registry (Symbols.extract lines') lines').map (·.eraseColumns) =
      (Usage.validate registry (Symbols.extract lines) lines).map (·.eraseColumns) ∧
    (¬ allowed commentMark →
      (∀ hostNotes, (Structure.check registry hostNotes lines').map (·.eraseColumns) =
        (Structure.check registry hostNotes lines).map (·.eraseColumns)) ∧
      (analyze registry options lines').map (·.eraseColumns) =
        (analyze registry options lines).map (·.eraseColumns)) := by
  have hsymbols := Symbols.extract_of_reworded h
  have hnames : (Symbols.extract lines').map (·.name) = (Symbols.extract lines).map (·.name) := by
    have hmap := congrArg (List.map (·.name)) hsymbols
    rwa [List.map_map, List.map_map] at hmap
  have hvalidate : (Usage.validate registry (Symbols.extract lines') lines').map (·.eraseColumns) =
      (Usage.validate registry (Symbols.extract lines) lines).map (·.eraseColumns) := by
    rw [Usage.validate_eq_of_map_name_eq registry hnames]
    exact Usage.validate_of_reworded registry _ h
  refine ⟨hsymbols, hvalidate, fun hmark => ?_⟩
  have hcheck (hostNotes : Bool) := Structure.check_of_reworded registry hmark hostNotes h
  have hfindings : (findings registry options lines').map (·.eraseColumns) =
      (findings registry options lines).map (·.eraseColumns) := by
    rw [findings, findings, List.map_append, List.map_append, hcheck, hvalidate]
  have herase (found : List Finding) : (found.map (·.toDiagnostic)).map (·.eraseColumns) =
      (found.map (·.eraseColumns)).map (·.toDiagnostic) := by
    rw [List.map_map, List.map_map]
    rfl
  exact ⟨hcheck, by rw [analyze, analyze, herase, herase, hfindings]⟩

/-- Block words and a name inside a literal, with a call behind it on the same line. -/
theorem string_contents_inert_with_keywords :
    List.Forall₂ (Reworded (· ≠ commentMark)) ["x = \"if y end\" + Foo(z)".toList]
      ["x = \"\" + Foo(z)".toList] ∧
    (analyze .empty ⟨true⟩ ["x = \"\" + Foo(z)".toList]).map (·.eraseColumns) =
      (analyze .empty ⟨true⟩ ["x = \"if y end\" + Foo(z)".toList]).map (·.eraseColumns) := by
  have hcontents : ∀ c ∈ "if y end".toList, c ≠ quoteMark ∧ c ≠ commentMark := by
    have hall : ("if y end".toList.all fun c => c ≠ quoteMark ∧ c ≠ commentMark) = true := by decide
    simpa only [List.all_eq_true, decide_eq_true_eq] using hall
  have h : List.Forall₂ (Reworded (· ≠ commentMark)) ["x = \"if y end\" + Foo(z)".toList]
      ["x = \"\" + Foo(z)".toList] :=
    .cons (@Reworded.literal _ "x = ".toList "if y end".toList [] _ _ (by decide) hcontents nofun
      (.rest (by decide))) .nil
  exact ⟨h, ((string_contents_inert .empty ⟨true⟩ h).2.2 (by decide)).2⟩

/-! ## Lines with a comment -/

section
variable {p : List Char} (hp : p.count quoteMark % 2 = 0)

/-- A comment leaves a line as skippable as it is without. -/
theorem isSkippable_comment (p c : List Char) :
    isSkippable (p ++ commentMark :: c) = isSkippable p := by
  rw [isSkippable, isSkippable, trimStart_append_stop isStop_commentMark]
  cases trimStart p with
  | nil => exact beq_self_eq_true commentMark
  | cons d cs => rfl

/-- With the comment first, a line is masked as without its comment. -/
theorem maskLine_commentFirst_comment (p c : List Char) :
    maskLine .commentFirst (p ++ commentMark :: c) =
      { maskLine .commentFirst p with raw := p ++ commentMark :: c } := by
  show MaskedLine.mk _ (hideStrings (cutComment _)) (shiftsFrom false 0 0 (cutComment _)) = _
  rw [cutComment_commentMark]
  rfl

include hp

/-- The quotes of a line are even in number if those of its comment are. -/
theorem count_quoteMark_comment (c : List Char) :
    (p ++ commentMark :: c).count quoteMark % 2 = c.count quoteMark % 2 := by
  rw [List.count_append, List.count_cons_of_ne (by decide)]
  omega

/-- With strings first, a line has the pieces of what stands in front of its comment, and then a
plain `#`: an even number of quotes leaves none in front that a quote of the comment could close. -/
theorem exists_wellCut_comment (c : List Char) :
    ∃ ps qs, WellCut ps ∧ rawText ps = p ∧ WellCut (ps ++ .plain commentMark :: qs) ∧
      rawText (ps ++ .plain commentMark :: qs) = p ++ commentMark :: c := by
  obtain ⟨ps, hps, rfl⟩ := exists_wellCut p
  obtain ⟨qs, hqs, rfl⟩ := exists_wellCut c
  refine ⟨ps, qs, hps, rfl, ?_, by rw [rawText_append, rawText_plain]⟩
  exact hps.append (hps.plain_quoteMark_notMem hp) ⟨fun h => absurd h (by decide), hqs⟩

/-- With strings first, a line shows the same text as without its comment. -/
theorem text_maskLine_comment (c : List Char) :
    (maskLine .stringsFirst (p ++ commentMark :: c)).text = (maskLine .stringsFirst p).text := by
  obtain ⟨ps, qs, hps, hp, hcut, hraw⟩ := exists_wellCut_comment hp c
  rw [← hraw, (shows_stringsFirst hcut).text_eq, takeWhile_append_stop (by decide), ← hp,
    (shows_stringsFirst hps).text_eq]

/-- With strings first, the columns of a masked line are those of the line without its comment. -/
theorem rawColumn_maskLine_comment (c : List Char) {x : Int}
    (hx : x ≤ (maskLine .stringsFirst p).text.length) :
    (maskLine .stringsFirst (p ++ commentMark :: c)).rawColumn x =
      (maskLine .stringsFirst p).rawColumn x := by
  obtain ⟨ps, qs, hps, rfl, hcut, hraw⟩ := exists_wellCut_comment hp c
  have hshifts : (maskLine .stringsFirst (rawText ps)).shifts = pieceShifts 0 0 ps :=
    shiftsFrom_rawText hps 0 0
  have hshifts' : (maskLine .stringsFirst (rawText ps ++ commentMark :: c)).shifts =
      pieceShifts 0 0 (ps ++ .plain commentMark :: qs) := by
    rw [← hraw]
    exact shiftsFrom_rawText hcut 0 0
  have hlen : (maskLine .stringsFirst (rawText ps)).text.length ≤ (maskedText ps).length := by
    show (cutComment (hideStrings (rawText ps))).length ≤ _
    rw [hideStrings_rawText hps]
    exact (List.takeWhile_prefix _).length_le
  rw [rawColumn_eq_add, rawColumn_eq_add, hshifts, hshifts', pieceShifts_append,
    removedBefore_append]
  -- the literals of the comment are behind the text that is shown
  intro s hs
  have := (start_of_mem_pieceShifts hs).1
  omega

/-- A comment has no symbols. -/
theorem Symbols.ofMasked_comment (i : Nat) (seen : List String) (c : List Char) :
    ofMasked i seen (maskLine .stringsFirst (p ++ commentMark :: c)) =
      ofMasked i seen (maskLine .stringsFirst p) := by
  rw [ofMasked_eq (rawColumn_le_iff _ _), ofMasked_eq (rawColumn_le_iff _ p),
    text_maskLine_comment hp]
  refine List.map_congr_left fun s hs => ?_
  obtain ⟨column, name, type, rfl, hstands, -⟩ := exists_capture_of_mem_ofMasked hs
  have hle : column + name.length ≤ (maskLine .stringsFirst p).text.length := hstands.le_length
  exact congrArg (Symbol.mk _ _ _) (rawColumn_maskLine_comment hp c (x := column) (by omega))

/-- No undefined names are found in a comment. -/
theorem Usage.maskedFindings_comment (registry : Registry) (declared : List String) (i : Nat)
    (c : List Char) :
    maskedFindings registry declared i (maskLine .stringsFirst (p ++ commentMark :: c)) =
      maskedFindings registry declared i (maskLine .stringsFirst p) := by
  rw [maskedFindings, maskedFindings, text_maskLine_comment hp]
  refine List.filterMap_congr fun mention hmention => ?_
  obtain ⟨before, after, htext, hlen, -⟩ := mem_mentions.1 hmention
  have hle : (mention.column : Int) ≤ (maskLine .stringsFirst p).text.length := by
    rw [htext, ← hlen, List.append_assoc, List.length_append]
    omega
  simp only [rawColumn_maskLine_comment hp c hle]

end

/-! ## Scripts with another comment -/

/-- A script with a comment on one line. -/
def withComment (before : List Line) (p c : List Char) (after : List Line) : List Line :=
  before ++ (p ++ commentMark :: c) :: after

/-- A line and itself, or line `k` behind whose front `p` the comment was replaced. -/
def Recommented (k : Nat) (p c c' : List Char) (i i' : Nat) (line line' : Line) : Prop :=
  i' = i ∧ (line' = line ∨ i = k ∧ line = p ++ commentMark :: c ∧ line' = p ++ commentMark :: c')

/-- Scripts with two comments at one place are aligned line by line. -/
theorem aligned_withComment (before : List Line) (p c c' : List Char) (after : List Line) :
    Aligned (Recommented before.length p c c') 0 0 (withComment before p c after)
      (withComment before p c' after) :=
  .append (.same fun _ _ _ => ⟨rfl, .inl rfl⟩)
    (.cons ⟨rfl, .inr ⟨Nat.zero_add _, rfl, rfl⟩⟩ (.same fun _ _ _ => ⟨rfl, .inl rfl⟩))

/-- Whether a finding is the unclosed string of line `k`. -/
def Finding.isUnclosedStringAt (k : Nat) (f : Finding) : Bool :=
  f.line = k ∧ f.issue.kind = .unclosedString

namespace Structure

/-- A view that does not look at where a finding ends tells scripts with other comments apart only
by the quotes of the line. -/
theorem simulation_of_recommented {β : Type} (registry : Registry) {k : Nat} {p c c' : List Char}
    (view : Finding → Option β) (hview : ∀ f stop, view { f with stop := stop } = view f)
    (hquotes : isSkippable p = false →
      (quoteFindings k (p ++ commentMark :: c')).filterMap view =
        (quoteFindings k (p ++ commentMark :: c)).filterMap view) :
    Simulation registry (Recommented k p c c') (fun b b' => b'.kind = b.kind ∧ b'.line = b.line)
      view view where
  lookAlike := by
    rintro i i' line line' ⟨rfl, rfl | ⟨rfl, rfl, rfl⟩⟩
    · exact ⟨rfl, rfl, rfl, rfl, rfl, fun _ => rfl, fun _ => rfl, fun _ _ => rfl, rfl, rfl⟩
    · have htext (c : List Char) : codeText (p ++ commentMark :: c) = codeText p := by
        rw [codeText, maskLine_commentFirst_comment]
        rfl
      have hcontent (issue : Issue) : view (contentFinding i' (p ++ commentMark :: c') issue) =
          view (contentFinding i' (p ++ commentMark :: c) issue) := by
        rw [contentFinding, contentFinding, indent_append_stop isStop_commentMark,
          indent_append_stop isStop_commentMark]
        exact hview ⟨_, _, contentEnd (p ++ commentMark :: c), _⟩ _
      refine ⟨?_, by rw [htext, htext], by rw [htext, htext], by rw [htext, htext],
        by rw [htext, htext], ?_, fun _ => hcontent _, fun _ _ => hcontent _, ?_, ?_⟩
      · rw [isSkippable_comment, isSkippable_comment]
      · rwa [isSkippable_comment]
      · rw [typeFindings_append_stop isStop_commentMark,
          typeFindings_append_stop isStop_commentMark]
      · rw [maskLine_commentFirst_comment, maskLine_commentFirst_comment p c]
        rfl
  opened := by
    rintro i i' line line' ⟨rfl, -⟩ kind
    exact ⟨rfl, rfl⟩
  kind_eq := fun b b' h => h.1
  unclosed := by
    rintro b b' ⟨hkind, hline⟩
    rw [hkind, hline]
    exact hview ⟨_, _, b.width, _⟩ _

section
variable {p : List Char} (registry : Registry) (hostNotes : Bool) (before after : List Line)

/-- Scripts with other comments have the same findings but for where they end and for the unclosed
string of the line. -/
theorem check_withComment (c c' : List Char) :
    ((check registry hostNotes (withComment before p c' after)).filter
        (!·.isUnclosedStringAt before.length)).map (·.eraseStop) =
      ((check registry hostNotes (withComment before p c after)).filter
        (!·.isUnclosedStringAt before.length)).map (·.eraseStop) := by
  rw [← List.filterMap_eq_map, List.filterMap_filter, List.filterMap_filter]
  refine (simulation_of_recommented registry _ (fun _ _ => rfl) fun _ => ?_).filterMap_check
    hostNotes
    (aligned_withComment before p c c' after)
  -- neither view shows the unclosed string
  have hquotes (line : Line) : (quoteFindings before.length line).filterMap
      (fun f => if !f.isUnclosedStringAt before.length then (some ∘ Finding.eraseStop) f
        else none) =
        [] := by
    refine List.filterMap_eq_nil_iff.2 fun f hf => if_neg ?_
    simp [Finding.isUnclosedStringAt, kind_of_mem_quoteFindings hf]
  exact (hquotes _).trans (hquotes _).symm

/-- The unclosed string of the line is found in both scripts or in neither if the line is skippable
or the quotes of both comments have the same parity. -/
theorem check_withComment_of_parity (hp : p.count quoteMark % 2 = 0) {c c' : List Char}
    (h : isSkippable p = true ∨ c.count quoteMark % 2 = c'.count quoteMark % 2) :
    (check registry hostNotes (withComment before p c' after)).map (·.eraseStop) =
      (check registry hostNotes (withComment before p c after)).map (·.eraseStop) := by
  rw [← List.filterMap_eq_map]
  refine (simulation_of_recommented registry _ (fun _ _ => rfl) fun hskip => ?_).filterMap_check
    hostNotes (aligned_withComment before p c c' after)
  have hparity := h.resolve_left (by simp [hskip])
  rw [quoteFindings, quoteFindings, count_quoteMark_comment hp, count_quoteMark_comment hp, hparity]
  split <;> rfl

end

/-- The unclosed string of a line, if it has one. -/
theorem filter_unclosedString_check (registry : Registry) (hostNotes : Bool) (lines : List Line)
    (k : Nat) :
    (check registry hostNotes lines).filter (·.isUnclosedStringAt k) =
      if isSkippable (lines.getD k []) then [] else quoteFindings k (lines.getD k []) := by
  refine filter_rule_check (by decide) ?_
  intro hskip
  exact filter_kind_lineFindings registry hostNotes k _ hskip .unclosedString

end Structure

section
variable {p : List Char} (hp : p.count quoteMark % 2 = 0) (before after : List Line)
include hp

/-- The comment of a line has no influence on the symbols. -/
theorem Symbols.extract_withComment (c c' : List Char) :
    extract (withComment before p c' after) = extract (withComment before p c after) := by
  rw [← List.map_id (extract (withComment before p c' after)),
    ← List.map_id (extract (withComment before p c after))]
  refine map_extractFrom ?_ ?_ (aligned_withComment before p c c' after) []
  · rintro i i' line line' ⟨rfl, rfl | ⟨rfl, rfl, rfl⟩⟩
    · rfl
    · refine pathsOf_eq (by rw [isSkippable_comment, isSkippable_comment]) ?_
      rw [map_path_writes, map_path_writes, text_maskLine_comment hp, text_maskLine_comment hp]
  · rintro i i' line line' ⟨rfl, rfl | ⟨rfl, rfl, rfl⟩⟩ seen
    · rfl
    · refine map_ofLine (by rw [isSkippable_comment, isSkippable_comment]) ?_
      rw [ofMasked_comment hp, ofMasked_comment hp]

/-- The comment of a line has no influence on the undefined names. -/
theorem Usage.validate_withComment (registry : Registry) (symbols : List Symbol)
    (c c' : List Char) :
    validate registry symbols (withComment before p c' after) =
      validate registry symbols (withComment before p c after) := by
  rw [← List.map_id (validate registry symbols (withComment before p c' after)),
    ← List.map_id (validate registry symbols (withComment before p c after))]
  refine map_validateFrom ?_ (aligned_withComment before p c c' after)
  rintro i i' line line' ⟨rfl, rfl | ⟨rfl, rfl, rfl⟩⟩
  · rfl
  · refine map_lineFindings (by rw [isSkippable_comment, isSkippable_comment]) ?_
    rw [maskedFindings_comment hp, maskedFindings_comment hp]

end

/-! ## Lines of a text -/

/-- A text that goes on behind a line: perhaps a carriage return, and then a line feed or
nothing. -/
def EndsLine (back : List Char) : Prop :=
  ∃ ending rest, back = ending ++ rest ∧ (ending = [] ∨ ending = ['\r']) ∧
    (rest = [] ∨ ∃ behind, rest = '\n' :: behind)

/-- A line between the lines before it and a line ending is a line of the text. -/
theorem exists_splitLines_eq {front back : List Char}
    (hfront : front = [] ∨ front.getLast? = some '\n') (hback : EndsLine back) :
    ∃ before after, ∀ text : Line, '\n' ∉ text → text.getLast? ≠ some '\r' →
      splitLines (front ++ text ++ back) = before ++ text :: after := by
  obtain ⟨ending, rest, rfl, hending, hrest⟩ := hback
  have hfeed : '\n' ∉ ending := by rcases hending with rfl | rfl <;> decide
  have hreturn {text : Line} (htext : text.getLast? ≠ some '\r') :
      dropReturn (text ++ ending) = text := by
    rcases hending with rfl | rfl
    · rw [List.append_nil, dropReturn, if_neg htext]
    · rw [dropReturn, if_pos List.getLast?_concat, List.dropLast_concat]
  have hback : ∃ after, ∀ text : Line, '\n' ∉ text → text.getLast? ≠ some '\r' →
      splitLines (text ++ (ending ++ rest)) = text :: after := by
    rcases hrest with rfl | ⟨behind, rfl⟩
    · refine ⟨[], fun text hnone htext => ?_⟩
      rw [List.append_nil, splitLines_eq_singleton (by simp [hnone, hfeed]), hreturn htext]
    · refine ⟨splitLines behind, fun text hnone htext => ?_⟩
      rw [← List.append_assoc, splitLines_append_cons, splitLines_eq_singleton
        (by simp [hnone, hfeed]), hreturn htext]
      rfl
  obtain ⟨after, hafter⟩ := hback
  rcases hfront with rfl | hfront
  · refine ⟨[], after, fun text hnone htext => ?_⟩
    rw [List.nil_append, hafter text hnone htext, List.nil_append]
  · obtain ⟨lines, rfl⟩ := List.getLast?_eq_some_iff.1 hfront
    refine ⟨splitLines lines, after, fun text hnone htext => ?_⟩
    rw [List.append_assoc, List.append_assoc, List.singleton_append, splitLines_append_cons,
      hafter text hnone htext]

/-- **Comment contents do not interfere.** Replacing a comment behind an even number of quotes
leaves the symbols and the undefined names as they are. In the check it only changes where findings
end and whether the line has an unclosed string: it has one if it is not skippable and the comment
has an odd number of quotes. The second part says that lines of a text are lines in this sense. -/
theorem comment_contents_inert (registry : Registry) {p : List Char}
    (hp : p.count quoteMark % 2 = 0) :
    (∀ (before after : List Line) (c c' : List Char),
      let lines := withComment before p c after
      let lines' := withComment before p c' after
      Symbols.extract lines' = Symbols.extract lines ∧
      Usage.validate registry (Symbols.extract lines') lines' =
        Usage.validate registry (Symbols.extract lines) lines ∧
      ∀ hostNotes,
        ((Structure.check registry hostNotes lines').filter
            (!·.isUnclosedStringAt before.length)).map (·.eraseStop) =
          ((Structure.check registry hostNotes lines).filter
            (!·.isUnclosedStringAt before.length)).map (·.eraseStop) ∧
        (Structure.check registry hostNotes lines).filter (·.isUnclosedStringAt before.length) =
          (if isSkippable (p ++ commentMark :: c) ∨ c.count quoteMark % 2 = 0 then []
          else [⟨before.length, 0, (p ++ commentMark :: c).length, .unclosedString⟩]) ∧
        (isSkippable (p ++ commentMark :: c) ∨ c.count quoteMark % 2 = c'.count quoteMark % 2 →
          (Structure.check registry hostNotes lines').map (·.eraseStop) =
            (Structure.check registry hostNotes lines).map (·.eraseStop))) ∧
    (∀ front back : List Char, '\n' ∉ p → (front = [] ∨ front.getLast? = some '\n') →
      EndsLine back → ∃ before after, ∀ c, '\n' ∉ c → (p ++ commentMark :: c).getLast? ≠ some '\r' →
        splitLines (front ++ (p ++ commentMark :: c) ++ back) = withComment before p c after) := by
  refine ⟨fun before after c c' => ?_, fun front back hnone hfront hback => ?_⟩
  · have hsymbols := Symbols.extract_withComment hp before after c c'
    refine ⟨hsymbols, ?_, fun hostNotes =>
      ⟨Structure.check_withComment _ _ _ _ _ _, ?_, fun h => ?_⟩⟩
    · rw [hsymbols]
      exact Usage.validate_withComment hp before after registry _ c c'
    · have hline : (withComment before p c after).getD before.length [] =
          p ++ commentMark :: c := by
        rw [withComment, List.getD_eq_getElem?_getD, List.getElem?_append_right (Nat.le_refl _),
          Nat.sub_self]
        rfl
      rw [Structure.filter_unclosedString_check, hline, Structure.quoteFindings,
        count_quoteMark_comment hp, ite_or]
    · rw [isSkippable_comment] at h
      exact Structure.check_withComment_of_parity registry hostNotes before after hp h
  · obtain ⟨before, after, hlines⟩ := exists_splitLines_eq hfront hback
    refine ⟨before, after, fun c hc hreturn => hlines _ ?_ hreturn⟩
    simp [hnone, hc, commentMark]

/-- A comment with a quote and block words behind a literal: with the quote the line has an unclosed
string, and nothing else is different. -/
theorem comment_contents_inert_behind_literal :
    "x = \"a\" + y ".toList.count quoteMark % 2 = 0 ∧
    Symbols.extract ["var x".toList, "x = \"a\" + y # \" end z".toList] =
      Symbols.extract ["var x".toList, "x = \"a\" + y # ok".toList] ∧
    (Structure.check .empty false ["var x".toList, "x = \"a\" + y # \" end z".toList]).filter
      (·.isUnclosedStringAt 1) = [⟨1, 0, 21, .unclosedString⟩] := by
  have h := (comment_contents_inert .empty (p := "x = \"a\" + y ".toList) (by decide)).1
    ["var x".toList] []
  exact ⟨by decide, (h " ok".toList " \" end z".toList).1,
    ((h " \" end z".toList []).2.2 false).2.1.trans (by decide +kernel)⟩

end ScriptLint
