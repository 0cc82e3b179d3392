import ScriptLint.Analysis.Session
import ScriptLint.Proofs.Alignment
import ScriptLint.Proofs.Columns
import ScriptLint.Proofs.Position

/-!
# Indentation does not matter

Blanks in front of a line move what is found on it to the right and change nothing else. There is
one reason for each way in which a line is read:

* a search for a rule passes over the blanks, because no rule that is searched for matches at a
  blank or looks at more than the kind of character before it (`Rule.SkipsBlanks`,
  `Rule.SkipsBlanks.scan_append`);
* a rule for the start of a line takes any blanks there (`trimStart_append`);
* masking keeps the blanks, and every shift takes effect that much later (`text_maskLine_append`,
  `rawColumn_maskLine_append`).

`indentation_inert` states what follows for the whole analysis of a script whose lines are indented
by blanks of any kind and number, each line by its own.
-/

namespace ScriptLint

/-- A text of blanks only. -/
def AllBlank (cs : List Char) : Prop := ∀ c ∈ cs, isBlank c = true

/-! ## Blanks in front of a text -/

section
variable {w : List Char} (hw : AllBlank w)
include hw

/-- A character that is no blank is in no blank text. -/
theorem AllBlank.notMem {c : Char} (hc : isBlank c = false) : c ∉ w := by
  intro hmem
  rw [hw c hmem] at hc
  cases hc

/-- No quote is in a blank text. -/
theorem AllBlank.quoteMark_notMem : quoteMark ∉ w := hw.notMem (by decide)

/-- No comment mark is in a blank text. -/
theorem AllBlank.commentMark_notMem : commentMark ∉ w := hw.notMem (by decide)

/-- Further blanks at the front are trimmed too. -/
theorem trimStart_append (cs : List Char) : trimStart (w ++ cs) = trimStart cs :=
  List.dropWhile_append_of_pos hw

/-- The blanks at the front of an indented text are the new and the old ones. -/
theorem takeWhile_isBlank_append (cs : List Char) :
    (w ++ cs).takeWhile isBlank = w ++ cs.takeWhile isBlank :=
  List.takeWhile_append_of_pos hw

/-- An indented line is skippable if the line is. -/
theorem isSkippable_append (line : Line) : isSkippable (w ++ line) = isSkippable line := by
  rw [isSkippable, isSkippable, trimStart_append hw]

/-- Blanks add to the indentation. -/
theorem indent_append (line : Line) : indent (w ++ line) = indent line + w.length := by
  rw [indent, indent, takeWhile_isBlank_append hw, List.length_append, Nat.add_comm]

/-- Indentation has no quotes. -/
theorem count_quoteMark_append (line : Line) :
    (w ++ line).count quoteMark = line.count quoteMark := by
  rw [List.count_append, List.count_eq_zero.2 hw.quoteMark_notMem, Nat.zero_add]

omit hw in
/-- Where a line has a visible character, what stands before it is not trimmed from its end. -/
theorem contentEnd_append {line : Line} (h : isSkippable line = false) (w : List Char) :
    contentEnd (w ++ line) = contentEnd line + w.length := by
  have hvisible : ¬ line.reverse.dropWhile isBlank = [] := by
    intro hnil
    have hall : ∀ c ∈ line, isBlank c = true := fun c hc =>
      List.dropWhile_eq_nil_iff.1 hnil c (List.mem_reverse.2 hc)
    have htrim : trimStart line = [] := List.dropWhile_eq_nil_iff.2 hall
    rw [isSkippable, htrim] at h
    cases h
  rw [contentEnd, contentEnd, trimEnd, trimEnd, List.reverse_append, List.dropWhile_append,
    if_neg (by simpa using hvisible), List.length_reverse, List.length_reverse, List.length_append,
    List.length_reverse]

/-! ## Rules for the start of a line -/

/-- An indented line goes on with a block if the line does. -/
theorem isSome_continuation_append (text : List Char) :
    (Rules.continuation none (w ++ text)).isSome = (Rules.continuation none text).isSome := by
  simp only [Rules.continuation, trimStart_append hw]
  split <;> rfl

/-- The type of a leading declaration moves with the blanks in front. -/
theorem leadingType_append (line : Line) :
    Rules.leadingType none (w ++ line) = (Rules.leadingType none line).map fun found =>
      (found.1 + w.length, ⟨found.2.offset + w.length, found.2.text⟩) := by
  have hindent : ((w ++ line).takeWhile isBlank).length =
      (line.takeWhile isBlank).length + w.length := indent_append hw line
  simp only [Rules.leadingType, trimStart_append hw, hindent, Option.isSome_none,
    Bool.false_eq_true, if_false]
  split
  · rw [Option.map_some, Capture.stop, Capture.stop]
    simp only [Option.some.injEq, Prod.mk.injEq, Capture.mk.injEq, and_true]
    omega
  · rfl

end

/-! ## Blanks before a sign -/

section
variable {blanks : List Char} (hblanks : AllBlank blanks)
  {sign : Char} (hsign : isBlank sign = false)
include hblanks

/-- No run goes on where blanks and a sign follow that do not belong to it. -/
theorem AllBlank.head?_any_append {p : Char → Bool} (hp : ∀ c, isBlank c = true → p c = false)
    (hstop : p sign = false) (rest : List Char) : (blanks ++ sign :: rest).head?.any p = false := by
  cases blanks with
  | nil => exact hstop
  | cons c blanks => exact hp c (hblanks c List.mem_cons_self)

include hsign

/-- Blanks before a sign are taken up to the sign. -/
theorem AllBlank.takeWhile_append_cons (rest : List Char) :
    (blanks ++ sign :: rest).takeWhile isBlank = blanks :=
  takeWhile_run hblanks hsign

/-- Blanks before a sign are trimmed up to the sign. -/
theorem AllBlank.trimStart_append_cons (rest : List Char) :
    trimStart (blanks ++ sign :: rest) = sign :: rest :=
  dropWhile_run hblanks hsign

omit hsign in
/-- A character that is neither blank nor the sign, at a column up to the sign, stands before the
blanks. -/
theorem AllBlank.lt_of_getElem? {before part rest : List Char} {k : Nat} {c : Char}
    (hget : (before ++ (part ++ (blanks ++ sign :: rest)))[k]? = some c)
    (hblank : isBlank c = false)
    (hne : c ≠ sign) (hk : k < before.length + part.length + blanks.length + 1) :
    k < before.length + part.length := by
  by_contra hge
  obtain ⟨j, rfl⟩ := Nat.exists_eq_add_of_le (Nat.le_of_not_lt hge)
  rw [Nat.add_assoc, List.getElem?_append_right (Nat.le_add_right _ _), Nat.add_sub_cancel_left,
    List.getElem?_append_right (Nat.le_add_right _ _), Nat.add_sub_cancel_left,
    ← List.singleton_append, ← List.append_assoc,
    List.getElem?_append_left (by rw [List.length_append, List.length_singleton]; omega)] at hget
  rcases List.mem_append.1 (List.mem_of_getElem? hget) with hmem | hmem
  · exact hblanks.notMem hblank hmem
  · exact hne (List.mem_singleton.1 hmem)

end

/-- A character of words is no blank. -/
theorem isBlank_eq_false_of_isWordChar {c : Char} (h : isWordChar c = true) :
    isBlank c = false := by
  by_contra hblank
  rw [isWordChar_eq_false_of_isBlank (by simpa using hblank)] at h
  cases h

/-- Trimming leaves a sign where blanks stand before it. -/
theorem eq_append_of_trimStart_eq {cs : List Char} {sign : Char} {rest : List Char}
    (h : trimStart cs = sign :: rest) :
    AllBlank (cs.takeWhile isBlank) ∧ cs = cs.takeWhile isBlank ++ sign :: rest := by
  refine ⟨fun c hc => List.mem_takeWhile_imp hc, ?_⟩
  rw [← h, takeWhile_append_trimStart]

/-! ## Rules that are searched for -/

/-- A rule that passes over blanks: it matches nothing that starts with one, and behind one it
matches what it matches at the start of a text. -/
structure Rule.SkipsBlanks {α : Type} (rule : Rule α) : Prop where
  at_blank : ∀ (prev : Option Char) {c : Char} (cs : List Char), isBlank c = true →
    rule prev (c :: cs) = none
  behind_blank : ∀ {c : Char} (cs : List Char), isBlank c = true → rule (some c) cs = rule none cs

/-- A match further to the right. -/
def Found.pushRight {α : Type} (n : Nat) (f : Found α) : Found α :=
  { f with column := f.column + n }

section
variable {α : Type} {rule : Rule α}

/-- A search from a column further to the right finds the same there. -/
theorem Rule.scanFrom_add (rule : Rule α) (n column : Nat) (prev : Option Char) (busy : Nat)
    (cs : List Char) :
    rule.scanFrom (column + n) prev busy cs =
      (rule.scanFrom column prev busy cs).map (·.pushRight n) := by
  induction cs generalizing column prev busy with
  | nil => rfl
  | cons c cs ih =>
    simp only [Rule.scanFrom, Nat.add_right_comm column n 1]
    cases busy with
    | succ k => exact ih _ _ _
    | zero =>
      dsimp only
      split
      · rw [List.map_cons, ih]
        rfl
      · exact ih _ _ _

/-- A search passes over blanks, and behind them it goes on as at the start of a text. -/
theorem Rule.SkipsBlanks.scanFrom_append (hrule : rule.SkipsBlanks) {w : List Char}
    (hw : AllBlank w) {prev : Option Char}
    (hprev : prev = none ∨ ∃ c, prev = some c ∧ isBlank c = true)
    (column : Nat) (text : List Char) :
    rule.scanFrom column prev 0 (w ++ text) = rule.scanFrom (column + w.length) none 0 text := by
  induction w generalizing column prev with
  | nil =>
    rcases hprev with rfl | ⟨c, rfl, hc⟩
    · rfl
    · cases text with
      | nil => rfl
      | cons d text =>
        rw [List.nil_append, List.length_nil, Nat.add_zero, Rule.scanFrom, Rule.scanFrom,
          hrule.behind_blank _ hc]
  | cons c w ih =>
    obtain ⟨hc, hw⟩ := List.forall_mem_cons.1 hw
    simp only [List.cons_append, Rule.scanFrom, hrule.at_blank _ _ hc]
    rw [ih hw (.inr ⟨c, rfl, hc⟩), List.length_cons, Nat.add_assoc, Nat.add_comm 1]

/-- A search behind blanks finds the same further to the right. -/
theorem Rule.SkipsBlanks.scan_append (hrule : rule.SkipsBlanks) {w : List Char} (hw : AllBlank w)
    (text : List Char) : rule.scan (w ++ text) = (rule.scan text).map (·.pushRight w.length) := by
  rw [Rule.scan, hrule.scanFrom_append hw (.inl rfl), Rule.scanFrom_add]
  rfl

/-- A rule that skips blanks occurs in an indented text if it does in the text. -/
theorem Rule.SkipsBlanks.occurs_append (hrule : rule.SkipsBlanks) {w : List Char} (hw : AllBlank w)
    (text : List Char) : rule.occurs (w ++ text) = rule.occurs text := by
  rw [Rule.occurs, Rule.occurs, hrule.scan_append hw, List.isEmpty_map]

/-- A rule that skips blanks finds the same first in an indented text. -/
theorem Rule.SkipsBlanks.first?_append (hrule : rule.SkipsBlanks) {w : List Char} (hw : AllBlank w)
    (text : List Char) : rule.first? (w ++ text) = rule.first? text := by
  rw [Rule.first?, Rule.first?, hrule.scan_append hw, List.head?_map, Option.map_map]
  rfl

/-- Rules for whole words pass over blanks. -/
theorem wordRule_skipsBlanks (read : List Char → Option α) : (wordRule read).SkipsBlanks where
  at_blank prev c cs hc := by
    have hword : ¬ isWordChar c = true := by simp [isWordChar_eq_false_of_isBlank hc]
    rw [wordRule, List.takeWhile_cons_of_neg hword]
    split <;> rfl
  behind_blank {c} cs hc := by
    simp only [wordRule, Option.any_some, isWordChar_eq_false_of_isBlank hc, Option.any_none]

end

namespace Rules

/-- No word starts with a blank. -/
theorem afterText?_blank {v c : Char} (word cs : List Char) (hv : isBlank v = false)
    (hc : isBlank c = true) : afterText? (v :: word) (c :: cs) = none := by
  have hne : v ≠ c := by
    rintro rfl
    rw [hv] at hc
    cases hc
  rw [afterText?, List.isPrefixOf_cons_cons, beq_eq_false_iff_ne.2 hne]
  rfl

/-- Declarations start behind blanks. -/
theorem declaration_skipsBlanks : declaration.SkipsBlanks where
  at_blank prev c cs hc := by
    rw [declaration, declaration?,
      show "var".toList = 'v' :: "ar".toList from rfl, afterText?_blank _ _ (by decide) hc]
    split <;> rfl
  behind_blank {c} cs hc := by
    simp only [declaration, Option.any_some, isWordChar_eq_false_of_isBlank hc, Option.any_none]

/-- Loop variables are bound behind blanks. -/
theorem loopBinding_skipsBlanks : loopBinding.SkipsBlanks where
  at_blank prev c cs hc := by
    rw [loopBinding,
      show "foreach".toList = 'f' :: "oreach".toList from rfl, afterText?_blank _ _ (by decide) hc]
    split <;> rfl
  behind_blank {c} cs hc := by
    simp only [loopBinding, Option.any_some, isWordChar_eq_false_of_isBlank hc, Option.any_none]

/-- Writes start behind blanks. -/
theorem propertyWrite_skipsBlanks : propertyWrite.SkipsBlanks where
  at_blank prev c cs hc := by
    have hname : isNameStart c = false := by
      rw [Bool.eq_false_iff]
      intro h
      simpa [isWordChar_eq_false_of_isBlank hc] using isWordChar_of_isNameStart h
    rw [propertyWrite, List.head?_cons, Option.any_some, hname, Bool.not_false, Bool.or_true]
    rfl
  behind_blank {c} cs hc := by
    simp only [propertyWrite, Option.any_some, isWordChar_eq_false_of_isBlank hc, Option.any_none]

/-- Calls start behind blanks. -/
theorem hostCall_skipsBlanks : hostCall.SkipsBlanks where
  at_blank prev c cs hc := by
    have hupper : isAsciiUpper c = false := by
      rw [Bool.eq_false_iff]
      intro h
      have := isWordChar_of_isAlphanum (isAsciiAlnum_of_isAsciiUpper h)
      simp [isWordChar_eq_false_of_isBlank hc] at this
    rw [hostCall, List.head?_cons, Option.any_some, hupper, Bool.not_false, Bool.or_true]
    rfl
  behind_blank {c} cs hc := by
    simp only [hostCall, Option.any_some, isWordChar_eq_false_of_isBlank hc, Option.any_none]

end Rules

/-! ## Masked lines -/

/-- A shift that takes effect further to the right. -/
def Shift.delay (n : Nat) (s : Shift) : Shift := { s with start := s.start + n }

/-- Shifts counted from a column further to the right take effect later. -/
theorem shiftsFrom_add (n : Nat) (inside : Bool) (column removed : Nat) (cs : List Char) :
    shiftsFrom inside (column + n) removed cs =
      (shiftsFrom inside column removed cs).map (·.delay n) := by
  induction cs generalizing inside column removed with
  | nil => rfl
  | cons c cs ih =>
    have hnext : column + n + 1 = column + 1 + n := Nat.add_right_comm _ _ _
    simp only [shiftsFrom, hnext, ih]
    split
    · split
      · rw [List.map_append]
        split
        · rfl
        · congr 1
          simp only [List.map_cons, List.map_nil, Shift.delay, List.cons.injEq, Shift.mk.injEq,
            and_true]
          omega
      · rfl
    · rfl

/-- Shifts that take effect later count the same at a column as much later. -/
theorem removedBefore_map_delay (n : Nat) (x removed : Int) (shifts : List Shift) :
    removedBefore (x + n) removed (shifts.map (·.delay n)) = removedBefore x removed shifts := by
  induction shifts generalizing removed with
  | nil => rfl
  | cons s shifts ih =>
    rw [List.map_cons, removedBefore, removedBefore, ih]
    exact if_congr (Int.add_le_add_iff_right n) rfl rfl

section
variable {w : List Char} (hw : AllBlank w)
include hw

/-- Masking keeps the blanks in front of a line. -/
theorem text_maskLine_append (order : MaskOrder) (line : Line) :
    (maskLine order (w ++ line)).text = w ++ (maskLine order line).text :=
  text_maskLine_front hw.quoteMark_notMem hw.commentMark_notMem order line

/-- Blanks in front of a line delay its shifts. -/
theorem shifts_maskLine_append (order : MaskOrder) (line : Line) :
    (maskLine order (w ++ line)).shifts = (maskLine order line).shifts.map (·.delay w.length) := by
  have hshifts (cs : List Char) :
      shiftsFrom false 0 0 (w ++ cs) = (shiftsFrom false 0 0 cs).map (·.delay w.length) := by
    rw [shiftsFrom_append hw.quoteMark_notMem, shiftsFrom_add]
  cases order with
  | stringsFirst => exact hshifts line
  | commentFirst =>
    show shiftsFrom false 0 0 (cutComment (w ++ line)) = _
    rw [cutComment_append hw.commentMark_notMem]
    exact hshifts (cutComment line)

/-- Blanks in front of a line move its raw columns. -/
theorem rawColumn_maskLine_append (order : MaskOrder) (line : Line) (x : Int) :
    (maskLine order (w ++ line)).rawColumn (x + w.length) =
      (maskLine order line).rawColumn x + w.length := by
  rw [rawColumn_eq_add, rawColumn_eq_add, shifts_maskLine_append hw, removedBefore_map_delay]
  omega

/-- The text of an indented line is indented. -/
theorem codeText_append (line : Line) : codeText (w ++ line) = w ++ codeText line :=
  text_maskLine_append hw .commentFirst line

/-- Indentation does not change the block that a line opens. -/
theorem openedBlock?_append (text : List Char) : openedBlock? (w ++ text) = openedBlock? text := by
  rw [openedBlock?, openedBlock?, isSome_continuation_append hw]
  exact if_congr Iff.rfl rfl ((wordRule_skipsBlanks _).first?_append hw text)

end

/-! ## Findings and symbols of an indented line -/

/-- Whether an issue is reported for a whole line, from its first column on. -/
def Issue.coversLine : Issue → Bool
  | .unclosedString | .unclosedBlock _ => true
  | .strayEnd | .strayLoopControl _ | .unknownType _ | .hostFunction _ | .undefinedVariable _ =>
    false

/-- A finding on a line with `n` more blanks in front. One about the whole line still starts at its
first column; every other one moves to the right. -/
def Finding.indented (n : Nat) (f : Finding) : Finding :=
  if f.issue.coversLine then { f with start := 0, stop := f.stop + n }
  else { f with start := f.start + n, stop := f.stop + n }

/-- A symbol on a line with `n` more blanks in front. -/
def Symbol.indented (n : Nat) (s : Symbol) : Symbol := { s with character := s.character + n }

section
variable {w : List Char} (hw : AllBlank w)
include hw

namespace Structure

/-- An unclosed string is found further to the right by the indentation. -/
theorem quoteFindings_append (i : Nat) (line : Line) :
    quoteFindings i (w ++ line) = (quoteFindings i line).map (·.indented w.length) := by
  rw [quoteFindings, quoteFindings, count_quoteMark_append hw]
  split
  · rfl
  · rw [List.length_append, Nat.add_comm]
    rfl

/-- A finding about the visible part of a line moves to the right. -/
theorem contentFinding_append (i : Nat) {line : Line} (h : isSkippable line = false) {issue : Issue}
    (hissue : issue.coversLine = false) :
    contentFinding i (w ++ line) issue = (contentFinding i line issue).indented w.length := by
  rw [contentFinding, indent_append hw, contentEnd_append h]
  simp only [Finding.indented, contentFinding, hissue, Bool.false_eq_true, if_false]
  rfl

/-- An unknown type is found further to the right by the indentation. -/
theorem typeFindings_append (i : Nat) (line : Line) :
    typeFindings i (w ++ line) = (typeFindings i line).map (·.indented w.length) := by
  rw [typeFindings, typeFindings, leadingType_append hw]
  cases Rules.leadingType none line with
  | none => rfl
  | some found =>
    simp only [Option.map_some]
    split
    · rfl
    · simp only [List.map_cons, List.map_nil, Finding.indented, Issue.coversLine, Capture.stop,
        Bool.false_eq_true, if_false, List.cons.injEq, Finding.mk.injEq, and_true, true_and]
      omega

/-- Calls are found further to the right by the indentation. -/
theorem callFindings_append (registry : Registry) (i : Nat) (line : Line) :
    callFindings registry i (maskLine .commentFirst (w ++ line)) =
      (callFindings registry i (maskLine .commentFirst line)).map (·.indented w.length) := by
  rw [callFindings, callFindings, text_maskLine_append hw,
    Rules.hostCall_skipsBlanks.scan_append hw, List.filterMap_map, List.map_filterMap]
  refine List.filterMap_congr fun call _ => ?_
  simp only [Function.comp_apply, Found.pushRight, Int.natCast_add, rawColumn_maskLine_append hw]
  split
  · simp only [Option.map_some, Finding.indented, Issue.coversLine, Bool.false_eq_true, if_false,
      Option.some.injEq, Finding.mk.injEq, and_true, true_and]
    omega
  · rfl

end Structure

namespace Symbols

/-- Declarations are found further to the right by the indentation. -/
theorem declarations_append (i : Nat) (line : Line) :
    declarations i (maskLine .stringsFirst (w ++ line)) =
      (declarations i (maskLine .stringsFirst line)).map (·.indented w.length) := by
  rw [declarations, declarations, text_maskLine_append hw,
    Rules.declaration_skipsBlanks.scan_append hw, List.map_map, List.map_map]
  refine List.map_congr_left fun found _ => ?_
  simp only [Function.comp_apply, Found.pushRight, Symbol.indented,
    ← rawColumn_maskLine_append hw, Symbol.mk.injEq, true_and]
  congr 1
  omega

/-- Iterators are found further to the right by the indentation. -/
theorem iterators_append (i : Nat) (line : Line) :
    iterators i (maskLine .stringsFirst (w ++ line)) =
      (iterators i (maskLine .stringsFirst line)).map (·.indented w.length) := by
  rw [iterators, iterators, text_maskLine_append hw,
    Rules.loopBinding_skipsBlanks.scan_append hw, List.map_map, List.map_map]
  refine List.map_congr_left fun found _ => ?_
  simp only [Function.comp_apply, Found.pushRight, Symbol.indented,
    ← rawColumn_maskLine_append hw, Symbol.mk.injEq, true_and]
  congr 1
  omega

/-- Writes are found further to the right by the indentation. -/
theorem writes_append (line : Line) :
    writes (maskLine .stringsFirst (w ++ line)) =
      (writes (maskLine .stringsFirst line)).map (·.relocate (· + w.length)) := by
  rw [writes, writes, text_maskLine_append hw,
    Rules.propertyWrite_skipsBlanks.scan_append hw, List.map_map, List.map_map]
  refine List.map_congr_left fun found _ => ?_
  simp only [Function.comp_apply, Found.pushRight, Write.relocate, Int.natCast_add,
    rawColumn_maskLine_append hw]

/-- The symbols of a line move with its blanks, and keep their order. -/
theorem ofMasked_append (i : Nat) (seen : List String) (line : Line) :
    ofMasked i seen (maskLine .stringsFirst (w ++ line)) =
      (ofMasked i seen (maskLine .stringsFirst line)).map (·.indented w.length) := by
  have hfirst : (firstWrites seen (writes (maskLine .stringsFirst (w ++ line)))).map
      (Write.toSymbol i) = ((firstWrites seen (writes (maskLine .stringsFirst line))).map
        (Write.toSymbol i)).map (·.indented w.length) := by
    rw [writes_append hw, firstWrites_map_relocate, List.map_map, List.map_map]
    rfl
  rw [ofMasked, declarations_append hw, iterators_append hw, hfirst, ← List.map_append,
    ← List.map_append, byColumn_map (f := Symbol.indented w.length)
      fun s t => (Int.add_le_add_iff_right _).symm]
  rfl

end Symbols

namespace Usage

/-- Blanks in front of a text put no dot before a name. -/
theorem afterDot_blanks (text : List Char) (column : Nat) :
    afterDot (w ++ text) (column + w.length) = afterDot text column := by
  rcases Nat.eq_zero_or_pos column with rfl | hpos
  · have hlast : w.getLast? ≠ some '.' := fun h =>
      absurd (hw _ (List.mem_of_getLast? h)) (by decide)
    rw [Nat.zero_add, Bool.eq_iff_iff, afterDot_append]
    exact iff_of_false hlast Bool.false_ne_true
  · have hget : (w ++ text)[column + w.length - 1]? = text[column - 1]? := by
      rw [List.getElem?_append_right (by omega)]
      congr 1
      omega
    rw [afterDot, afterDot, hget, decide_eq_true hpos, decide_eq_true (by omega)]

/-- The names of a text move with the blanks in front. -/
theorem mentions_append (text : List Char) :
    mentions (w ++ text) =
      (mentions text).map fun mention => { mention with column := mention.column + w.length } := by
  rw [mentions, mentions, Rules.identifier, (wordRule_skipsBlanks _).scan_append hw,
    List.filterMap_map, List.map_filterMap]
  refine List.filterMap_congr fun found _ => ?_
  have hcall : atCall (w ++ text) (found.column + w.length + found.width) =
      atCall text (found.column + found.width) := by
    rw [atCall, atCall, Nat.add_right_comm, Nat.add_comm, List.drop_length_add_append]
  simp only [Function.comp_apply, Found.pushRight, afterDot_blanks hw, hcall]
  split <;> rfl

/-- The undefined names of a line move with its blanks. -/
theorem maskedFindings_append (registry : Registry) (declared : List String) (i : Nat)
    (line : Line) :
    maskedFindings registry declared i (maskLine .stringsFirst (w ++ line)) =
      (maskedFindings registry declared i (maskLine .stringsFirst line)).map
        (·.indented w.length) := by
  rw [maskedFindings, maskedFindings, text_maskLine_append hw, mentions_append hw,
    List.filterMap_map, List.map_filterMap]
  refine List.filterMap_congr fun mention _ => ?_
  simp only [Function.comp_apply, Int.natCast_add, rawColumn_maskLine_append hw]
  split
  · rfl
  · simp only [Option.map_some, Finding.indented, Issue.coversLine, Bool.false_eq_true, if_false,
      Option.some.injEq, Finding.mk.injEq, and_true, true_and]
    omega

end Usage

end

/-! ## Indented scripts -/

/-- A script with blanks in front of its lines, `w i` in front of line `i`. -/
def indentBy (w : Nat → List Char) (lines : List Line) : List Line :=
  lines.mapIdx fun i line => w i ++ line

/-- A finding in the indented script. -/
def Finding.indentBy (w : Nat → List Char) (f : Finding) : Finding := f.indented (w f.line).length

/-- A symbol in the indented script. -/
def Symbol.indentBy (w : Nat → List Char) (s : Symbol) : Symbol := s.indented (w s.line).length

/-- A diagnostic that is moved to the right is the same up to columns. -/
theorem eraseColumns_toDiagnostic_indentBy (w : Nat → List Char) (f : Finding) :
    (f.indentBy w).toDiagnostic.eraseColumns = f.toDiagnostic.eraseColumns := by
  unfold Finding.indentBy Finding.indented
  split <;> rfl

/-- A line and the same line with blanks in front. -/
def IndentedBy (w : Nat → List Char) (i i' : Nat) (line line' : Line) : Prop :=
  i' = i ∧ line' = w i ++ line

/-- A script is aligned with the indented one, line by line. -/
theorem aligned_indentBy (w : Nat → List Char) (lines : List Line) :
    Aligned (IndentedBy w) 0 0 lines (indentBy w lines) := by
  suffices h : ∀ k, Aligned (IndentedBy w) k k lines
      (lines.mapIdx fun i line => w (k + i) ++ line) by
    have h := h 0
    simp only [Nat.zero_add] at h
    exact h
  induction lines with
  | nil => exact fun k => .nil
  | cons line lines ih =>
    intro k
    rw [List.mapIdx_cons]
    refine .cons ⟨rfl, rfl⟩ ?_
    simpa only [Nat.add_assoc, Nat.add_comm 1] using ih (k + 1)

section
variable {w : Nat → List Char} (hw : ∀ i, AllBlank (w i))
include hw

namespace Structure

/-- The check of an indented script finds the same as before, indented. -/
theorem simulation_indentBy (registry : Registry) :
    Simulation registry (IndentedBy w)
      (fun b b' => b' = { b with width := b.width + (w b.line).length })
      (fun f => some (f.indentBy w)) some where
  lookAlike := by
    rintro i i' line line' ⟨rfl, rfl⟩
    have hi := hw i'
    -- the findings of a rule on the line
    have hfound {found found' : List Finding}
        (h : found' = found.map (·.indented (w i').length)) (hline : ∀ f ∈ found, f.line = i') :
        found'.filterMap some = found.filterMap fun f => some (f.indentBy w) := by
      rw [h, List.filterMap_some, List.filterMap_eq_map']
      exact List.map_congr_left fun f hf => by rw [Finding.indentBy, hline f hf]
    refine ⟨isSkippable_append hi line, ?_, ?_, ?_, ?_, fun _ => ?_, fun h => ?_,
      fun h control => ?_, ?_, ?_⟩
    · rw [codeText_append hi, openedBlock?_append hi]
    · rw [codeText_append hi]
      exact (wordRule_skipsBlanks _).occurs_append hi _
    · rw [codeText_append hi]
      exact (wordRule_skipsBlanks _).occurs_append hi _
    · rw [codeText_append hi]
      exact (wordRule_skipsBlanks _).occurs_append hi _
    · exact hfound (quoteFindings_append hi i' line) fun f hf => (kind_of_mem_quoteFindings hf).1
    · exact congrArg some (contentFinding_append hi i' h rfl)
    · exact congrArg some (contentFinding_append hi i' h rfl)
    · exact hfound (typeFindings_append hi i' line) fun f hf => (kind_of_mem_typeFindings hf).1
    · exact hfound (callFindings_append hi registry i' line) fun f hf =>
        (kind_of_mem_callFindings hf).1
  opened := by
    rintro i i' line line' ⟨rfl, rfl⟩ kind
    rw [List.length_append, Nat.add_comm]
  kind_eq := by
    rintro b b' rfl
    rfl
  unclosed := by
    rintro b b' rfl
    rfl

/-- The checks by lines find the same in an indented script, further to the right. -/
theorem check_indentBy (registry : Registry) (hostNotes : Bool) (lines : List Line) :
    check registry hostNotes (indentBy w lines) =
      (check registry hostNotes lines).map (·.indentBy w) := by
  have hcheck :=
    (simulation_indentBy hw registry).filterMap_check hostNotes (aligned_indentBy w lines)
  rwa [List.filterMap_some, List.filterMap_eq_map'] at hcheck

end Structure

namespace Symbols

/-- An indented script has the same symbols, further to the right. -/
theorem extract_indentBy (lines : List Line) :
    extract (indentBy w lines) = (extract lines).map (·.indentBy w) := by
  rw [← List.map_id (extract (indentBy w lines))]
  refine map_extractFrom ?_ ?_ (aligned_indentBy w lines) []
  · rintro i i' line line' ⟨rfl, rfl⟩
    refine pathsOf_eq (isSkippable_append (hw i') line) ?_
    rw [writes_append (hw i'), List.map_map]
    rfl
  · rintro i i' line line' ⟨rfl, rfl⟩ seen
    refine map_ofLine (isSkippable_append (hw i') line) ?_
    rw [List.map_id, ofMasked_append (hw i')]
    exact List.map_congr_left fun s hs => by
      rw [Symbol.indentBy, (standsIn_of_mem_ofMasked hs).1]

end Symbols

namespace Usage

omit hw in
/-- The undefined names of a line name that line. -/
theorem line_of_mem_maskedFindings {registry : Registry} {declared : List String} {i : Nat}
    {m : MaskedLine} {f : Finding} (hf : f ∈ maskedFindings registry declared i m) :
    f.line = i := by
  obtain ⟨mention, -, hf⟩ := List.mem_filterMap.1 hf
  simp only [Option.ite_none_left_eq_some, Option.some.injEq] at hf
  rw [← hf.2]

/-- An indented script uses the same undefined names, further to the right. -/
theorem validate_indentBy (registry : Registry) (symbols : List Symbol) (lines : List Line) :
    validate registry symbols (indentBy w lines) =
      (validate registry symbols lines).map (·.indentBy w) := by
  rw [← List.map_id (validate registry symbols (indentBy w lines))]
  refine map_validateFrom ?_ (aligned_indentBy w lines)
  rintro i i' line line' ⟨rfl, rfl⟩
  refine map_lineFindings (isSkippable_append (hw i') line) ?_
  rw [List.map_id, maskedFindings_append (hw i')]
  exact List.map_congr_left fun f hf => by
    rw [Finding.indentBy, line_of_mem_maskedFindings hf]

end Usage

end

/-- **Indentation does not matter.** In a script whose lines are indented further, each by blanks of
its own, the analysis has the same diagnostics and symbols in the same order. On line `i` all
columns grow by the number of blanks in front of it; only the diagnostics about a whole line still
start at its first column. -/
theorem indentation_inert (registry : Registry) (options : Options) (lines : List Line)
    {w : Nat → List Char} (hw : ∀ i, AllBlank (w i)) :
    analyze registry options (indentBy w lines) =
      ((findings registry options lines).map (·.indentBy w)).map (·.toDiagnostic) ∧
    (analyze registry options (indentBy w lines)).map (·.eraseColumns) =
      (analyze registry options lines).map (·.eraseColumns) ∧
    Symbols.extract (indentBy w lines) = (Symbols.extract lines).map (·.indentBy w) := by
  have hsymbols := Symbols.extract_indentBy hw lines
  have hnames : (Symbols.extract (indentBy w lines)).map (·.name) =
      (Symbols.extract lines).map (·.name) := by
    rw [hsymbols, List.map_map]
    rfl
  have hfindings : findings registry options (indentBy w lines) =
      (findings registry options lines).map (·.indentBy w) := by
    rw [findings, findings, Structure.check_indentBy hw,
      Usage.validate_eq_of_map_name_eq registry hnames, Usage.validate_indentBy hw, List.map_append]
  rw [analyze, analyze, hfindings]
  refine ⟨rfl, ?_, hsymbols⟩
  rw [List.map_map, List.map_map, List.map_map]
  exact List.map_congr_left fun f _ => eraseColumns_toDiagnostic_indentBy w f

/-- A tab and an ideographic space in front of a line with a literal, a comment and an odd number of
quotes move the undefined names and leave the start of the unclosed string. -/
theorem indentation_inert_around_literal :
    (∀ i, AllBlank (if i = 1 then ['\t', '\u3000'] else [])) ∧
    analyze .empty ⟨false⟩ ["if a".toList, "\t\u3000x = \"b\" + y # \"".toList] =
      ((findings .empty ⟨false⟩ ["if a".toList, "x = \"b\" + y # \"".toList]).map
        (·.indentBy fun i => if i = 1 then ['\t', '\u3000'] else [])).map (·.toDiagnostic) := by
  have hblank (i : Nat) : AllBlank (if i = 1 then ['\t', '\u3000'] else []) := by
    split
    · exact List.all_eq_true.1 (by decide +kernel)
    · exact nofun
  exact ⟨hblank, (indentation_inert .empty ⟨false⟩ ["if a".toList, "x = \"b\" + y # \"".toList]
    hblank).1⟩

end ScriptLint
