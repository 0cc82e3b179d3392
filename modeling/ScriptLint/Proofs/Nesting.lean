import Mathlib.Data.List.Forall2
import ScriptLint.Analysis.Structure
import ScriptLint.Proofs.Findings
import ScriptLint.Proofs.Scan

/-!
# Runs over the lines of a script

What the check of a script carries from line to line is a `Nesting`. `nestingBefore lines i` is the
nesting that it has before line `i`, and `check_eq` writes the check as the findings of each line at
that nesting, followed by those about the nesting at the end.

`stepLine_cases` says once what a line can do to the nesting: leave it, open a block, close the
innermost block, or have an `end` too many. The invariants of a run follow from it. Here they are
`depthExact_nestingBefore` (the loop depth counts the loops on the stack) and
`openedBefore_of_mem_blocks` (a block on the stack was opened by an earlier line, which did not
close it again).

The events themselves are given by the whole words of the masked line (`OpensBlock`, `OpensWith`,
`ClosesBlock`). The findings of one kind on one line are those of one rule at the nesting of that
line (`filter_line_check`, `filter_kind_lineFindings`, `filter_rule_check`).
-/

namespace ScriptLint

/-! ## The events of a line -/

/-- The text of a line in which block words count: the line up to its first `#`, without string
contents. -/
def codeText (line : Line) : List Char := (maskLine .commentFirst line).text

/-- A text begins with blanks and then, as a whole word, `elseif` in any spelling. -/
def IsElseif (text : List Char) : Prop :=
  ∃ blanks word rest, text = blanks ++ (word ++ rest) ∧ (∀ c ∈ blanks, isBlank c = true) ∧
    List.Forall₂ (· ∈ ·) word Rules.elseifLetters ∧ rest.head?.any isWordChar = false

/-- A line opens a block: it is neither skippable nor an `elseif`, and an opening word stands in its
text as a whole word. -/
structure OpensBlock (line : Line) : Prop where
  visible : isSkippable line = false
  notElseif : ¬ IsElseif (codeText line)
  hasWord : ∃ kind : BlockKind, HasWord (codeText line) kind.keyword.toList

/-- A line closes a block: it is not skippable, and `end` stands in its text as a whole word. -/
def ClosesBlock (line : Line) : Prop :=
  isSkippable line = false ∧ HasWord (codeText line) "end".toList

/-- The first opening word of a text is the one of the given kind. -/
def FirstOpener (text : List Char) (kind : BlockKind) : Prop :=
  ∃ column, WordAt text column kind.keyword.toList ∧
    ∀ other column', WordAt text column' (BlockKind.keyword other).toList → column ≤ column'

/-- A line opens a block of the given kind, the one of its first opening word. -/
def OpensWith (line : Line) (kind : BlockKind) : Prop :=
  OpensBlock line ∧ FirstOpener (codeText line) kind

/-- A text spells letters if it starts with a spelling of each in turn. -/
theorem spells_eq_true_iff {letters : List (List Char)} {text : List Char} :
    Rules.spells letters text = true ↔
      ∃ word rest, text = word ++ rest ∧ List.Forall₂ (· ∈ ·) word letters := by
  induction letters generalizing text with
  | nil => exact iff_of_true rfl ⟨[], text, rfl, .nil⟩
  | cons spellings letters ih =>
    cases text with
    | nil =>
      refine iff_of_false Bool.false_ne_true ?_
      rintro ⟨word, rest, heq, hword⟩
      obtain ⟨rfl, -⟩ := List.append_eq_nil_iff.1 heq.symm
      cases hword
    | cons c cs =>
      rw [Rules.spells, Bool.and_eq_true, List.contains_iff_mem, ih]
      constructor
      · rintro ⟨hc, word, rest, rfl, hword⟩
        exact ⟨c :: word, rest, rfl, .cons hc hword⟩
      · rintro ⟨word, rest, heq, hword⟩
        cases hword with
        | cons hc hword =>
          obtain ⟨rfl, rfl⟩ := List.cons.inj heq
          exact ⟨hc, _, rest, rfl, hword⟩

/-- A continuation is a line with `elseif` as its first word. -/
theorem isSome_continuation {text : List Char} :
    (Rules.continuation none text).isSome = true ↔ IsElseif text := by
  have hsome : (Rules.continuation none text).isSome = true ↔
      Rules.spells Rules.elseifLetters (trimStart text) = true ∧
        ((trimStart text).drop Rules.elseifLetters.length).head?.any isWordChar = false := by
    simp [Rules.continuation]
  rw [hsome, spells_eq_true_iff]
  constructor
  · rintro ⟨⟨word, rest, heq, hword⟩, hrest⟩
    rw [heq, ← hword.length_eq, List.drop_left] at hrest
    refine ⟨text.takeWhile isBlank, word, rest, ?_, fun c hc => (List.mem_takeWhile_imp hc),
      hword, hrest⟩
    rw [← heq, trimStart, List.takeWhile_append_dropWhile]
  · rintro ⟨blanks, word, rest, rfl, hblanks, hword, hrest⟩
    have htrim : trimStart (blanks ++ (word ++ rest)) = word ++ rest := by
      rw [trimStart, List.dropWhile_append_of_pos hblanks]
      obtain ⟨c, word, hc, -, rfl⟩ := List.forall₂_cons_right_iff.1 hword
      rcases List.mem_pair.1 hc with rfl | rfl <;> exact List.dropWhile_cons_of_neg (by decide)
    rw [htrim, ← hword.length_eq, List.drop_left]
    exact ⟨⟨word, rest, rfl, hword⟩, hrest⟩

/-- The words that open blocks are `if`, `while`, `foreach` and `switch`, and those that open loops
are `while` and `foreach`. -/
theorem BlockKind.exists_keyword_iff {word : String} {loop : Bool} :
    (∃ kind : BlockKind, kind.keyword = word ∧ kind.isLoop = loop) ↔
      (word, loop) ∈ [("if", false), ("while", true), ("foreach", true), ("switch", false)] := by
  constructor
  · rintro ⟨kind, rfl, rfl⟩
    cases kind <;> decide
  · intro hmem
    simp only [List.mem_cons, Prod.mk.injEq, List.not_mem_nil, or_false] at hmem
    rcases hmem with ⟨rfl, rfl⟩ | ⟨rfl, rfl⟩ | ⟨rfl, rfl⟩ | ⟨rfl, rfl⟩
    · exact ⟨.ifBlock, rfl, rfl⟩
    · exact ⟨.whileLoop, rfl, rfl⟩
    · exact ⟨.foreachLoop, rfl, rfl⟩
    · exact ⟨.switchBlock, rfl, rfl⟩

/-- A word opens a block of some kind if it is the keyword of that kind. -/
theorem BlockKind.ofWord?_eq_some_iff {word : List Char} {kind : BlockKind} :
    BlockKind.ofWord? word = some kind ↔ word = kind.keyword.toList :=
  find?_spelling_eq_some_iff (fun kind : BlockKind => kind.keyword.toList)
    fun kind => by cases kind <;> decide

/-- The word that opens the block of a text is its first opening word. -/
theorem first?_blockOpen {text : List Char} {kind : BlockKind} :
    Rules.blockOpen.first? text = some kind ↔ FirstOpener text kind := by
  rw [Rules.blockOpen, first?_wordRule]
  constructor
  · rintro ⟨column, word, hword, hread, hmin⟩
    obtain rfl := BlockKind.ofWord?_eq_some_iff.1 hread
    refine ⟨column, hword, fun other column' hother => hmin column' _ hother ?_⟩
    rw [BlockKind.ofWord?_eq_some_iff.2 rfl]
    rfl
  · rintro ⟨column, hword, hmin⟩
    refine ⟨column, _, hword, BlockKind.ofWord?_eq_some_iff.2 rfl,
      fun column' word' hword' hread => ?_⟩
    obtain ⟨other, hother⟩ := Option.isSome_iff_exists.1 hread
    obtain rfl := BlockKind.ofWord?_eq_some_iff.1 hother
    exact hmin other column' hword'

/-- A text with an opening word has a first one. -/
theorem exists_firstOpener {text : List Char} {kind : BlockKind}
    (h : HasWord text kind.keyword.toList) : ∃ first, FirstOpener text first := by
  have hocc : Rules.blockOpen.occurs text = true :=
    occurs_wordRule.2 ⟨_, h, by rw [BlockKind.ofWord?_eq_some_iff.2 rfl]; rfl⟩
  rw [Rule.occurs, Bool.not_eq_true', List.isEmpty_eq_false_iff_exists_mem] at hocc
  obtain ⟨f, hf⟩ := hocc
  obtain ⟨first, rest, hfirst⟩ := List.exists_cons_of_ne_nil (List.ne_nil_of_mem hf)
  refine ⟨first.value, first?_blockOpen.1 ?_⟩
  rw [Rule.first?, hfirst]
  rfl

/-- The opening event of a line is the kind of block that it opens. -/
theorem opens_ofLine {line : Line} {kind : BlockKind} :
    (BlockEvents.ofLine line).opens = some kind ↔ OpensWith line kind := by
  unfold BlockEvents.ofLine
  split
  · rename_i hskip
    refine ⟨nofun, fun h => ?_⟩
    rw [h.1.visible] at hskip
    cases hskip
  · rename_i hskip
    show openedBlock? (codeText line) = some kind ↔ _
    rw [openedBlock?]
    split
    · rename_i hcont
      exact ⟨nofun, fun h => absurd (isSome_continuation.1 hcont) h.1.notElseif⟩
    · rename_i hcont
      rw [isSome_continuation] at hcont
      rw [first?_blockOpen]
      refine ⟨fun h => ⟨⟨by simpa using hskip, hcont, ?_⟩, h⟩, fun h => h.2⟩
      obtain ⟨column, hword, -⟩ := h
      exact ⟨kind, column, hword⟩

/-- A line opens a block of one kind only. -/
theorem OpensWith.kind_unique {line : Line} {kind kind' : BlockKind} (h : OpensWith line kind)
    (h' : OpensWith line kind') : kind = kind' :=
  Option.some.inj ((opens_ofLine.2 h).symm.trans (opens_ofLine.2 h'))

/-- A line has an opening event if it opens a block. -/
theorem isSome_opens_ofLine {line : Line} :
    (BlockEvents.ofLine line).opens.isSome = true ↔ OpensBlock line := by
  rw [Option.isSome_iff_exists]
  constructor
  · rintro ⟨kind, h⟩
    exact (opens_ofLine.1 h).1
  · intro h
    obtain ⟨kind, hkind⟩ := h.hasWord
    obtain ⟨first, hfirst⟩ := exists_firstOpener hkind
    exact ⟨first, opens_ofLine.2 ⟨h, hfirst⟩⟩

/-- A line has a closing event if it closes a block. -/
theorem closes_ofLine {line : Line} :
    (BlockEvents.ofLine line).closes = true ↔ ClosesBlock line := by
  unfold BlockEvents.ofLine
  split
  · rename_i hskip
    refine ⟨nofun, fun h => ?_⟩
    rw [h.1] at hskip
    cases hskip
  · rename_i hskip
    show Rules.blockClose.occurs (codeText line) = true ↔ _
    rw [Rules.blockClose, occurs_wordRule_eq]
    exact ⟨fun h => ⟨by simpa using hskip, h⟩, fun h => h.2⟩

instance (line : Line) : Decidable (OpensBlock line) := decidable_of_iff _ isSome_opens_ofLine

instance (line : Line) : Decidable (ClosesBlock line) := decidable_of_iff _ closes_ofLine

/-- A line that opens no block has no such event. -/
theorem opens_ofLine_eq_none {line : Line} (h : ¬ OpensBlock line) :
    (BlockEvents.ofLine line).opens = none := by
  rw [← isSome_opens_ofLine] at h
  simpa using h

/-- A line that closes no block has no such event. -/
theorem closes_ofLine_eq_false {line : Line} (h : ¬ ClosesBlock line) :
    (BlockEvents.ofLine line).closes = false := by
  rw [← closes_ofLine] at h
  simpa using h

/-! ## One line -/

namespace Nesting

/-- What a line does to the nesting, and whether it has an `end` too many. -/
theorem stepLine_cases (n : Nesting) (index : Nat) (line : Line) :
    ((OpensBlock line ↔ ClosesBlock line) ∧ n.stepLine index line = ⟨n, false⟩) ∨
    (∃ kind, OpensWith line kind ∧ ¬ ClosesBlock line ∧
      n.stepLine index line = ⟨n.push ⟨kind, index, line.length⟩, false⟩) ∨
    (∃ b rest, ¬ OpensBlock line ∧ ClosesBlock line ∧ n.blocks = b :: rest ∧
      n.stepLine index line = ⟨⟨rest, n.loopDepth - loopWeight b.kind⟩, false⟩) ∨
    (¬ OpensBlock line ∧ ClosesBlock line ∧ n.blocks = [] ∧
      n.stepLine index line = ⟨n, true⟩) := by
  by_cases ho : OpensBlock line <;> by_cases hc : ClosesBlock line
  · -- the line closes the block that it opens
    obtain ⟨kind, hkind⟩ := Option.isSome_iff_exists.1 (isSome_opens_ofLine.2 ho)
    refine .inl ⟨iff_of_true ho hc, ?_⟩
    simp only [stepLine, step, openLine, hkind, closes_ofLine.2 hc, if_true, push, pop,
      List.isEmpty_cons, Int.add_sub_cancel]
  · obtain ⟨kind, hkind⟩ := Option.isSome_iff_exists.1 (isSome_opens_ofLine.2 ho)
    refine .inr (.inl ⟨kind, opens_ofLine.1 hkind, hc, ?_⟩)
    simp only [stepLine, step, openLine, hkind, closes_ofLine_eq_false hc, Bool.false_eq_true,
      if_false]
  · have hnone := opens_ofLine_eq_none ho
    cases hb : n.blocks with
    | nil =>
      refine .inr (.inr (.inr ⟨ho, hc, rfl, ?_⟩))
      simp only [stepLine, step, openLine, hnone, closes_ofLine.2 hc, if_true, pop, hb,
        List.isEmpty_nil]
    | cons b rest =>
      refine .inr (.inr (.inl ⟨b, rest, ho, hc, rfl, ?_⟩))
      simp only [stepLine, step, openLine, hnone, closes_ofLine.2 hc, if_true, pop, hb,
        List.isEmpty_cons]
  · refine .inl ⟨iff_of_false ho hc, ?_⟩
    simp only [stepLine, step, openLine, opens_ofLine_eq_none ho, closes_ofLine_eq_false hc,
      Bool.false_eq_true, if_false]

/-- The loop depth is the number of loops on the stack. -/
def DepthExact (n : Nesting) : Prop :=
  n.loopDepth = n.blocks.countP (·.kind.isLoop)

/-- Opening a block keeps the loop depth exact. -/
theorem DepthExact.push {n : Nesting} (h : n.DepthExact) (b : OpenBlock) :
    (n.push b).DepthExact := by
  show n.loopDepth + loopWeight b.kind = ((b :: n.blocks).countP (·.kind.isLoop) : Nat)
  rw [h, List.countP_cons, loopWeight]
  split <;> simp

/-- The opening part of a line keeps the loop depth exact. -/
theorem DepthExact.openLine {n : Nesting} (h : n.DepthExact) (index width : Nat)
    (events : BlockEvents) : (n.openLine index width events).DepthExact := by
  unfold Nesting.openLine
  split
  · exact h
  · exact h.push _

/-- A line keeps the loop depth exact. -/
theorem DepthExact.stepLine {n : Nesting} (h : n.DepthExact) (index : Nat) (line : Line) :
    (n.stepLine index line).after.DepthExact := by
  rcases n.stepLine_cases index line with ⟨-, heq⟩ | ⟨kind, -, -, heq⟩ |
    ⟨b, rest, -, -, hb, heq⟩ | ⟨-, -, -, heq⟩
  · rw [heq]; exact h
  · rw [heq]; exact h.push _
  · rw [heq]
    show n.loopDepth - loopWeight b.kind = (rest.countP (·.kind.isLoop) : Nat)
    rw [h, hb, List.countP_cons, loopWeight]
    split <;> simp
  · rw [heq]; exact h

end Nesting

/-! ## Runs -/

/-- The nesting before a line of a script. -/
def nestingBefore (lines : List Line) : Nat → Nesting
  | 0 => {}
  | i + 1 => ((nestingBefore lines i).stepLine i (lines.getD i [])).after

/-- What a line of a script does to the nesting before it. -/
def stepAt (lines : List Line) (i : Nat) : Nesting.Step :=
  (nestingBefore lines i).stepLine i (lines.getD i [])

/-- The loop depth is exact before every line. -/
theorem depthExact_nestingBefore (lines : List Line) (i : Nat) :
    (nestingBefore lines i).DepthExact := by
  induction i with
  | zero => rfl
  | succ i ih => exact ih.stepLine _ _

/-- A line that opens a block is one of the lines of the script. -/
theorem getElem?_of_opensBlock {lines : List Line} {i : Nat}
    (h : OpensBlock (lines.getD i [])) : lines[i]? = some (lines.getD i []) := by
  cases hline : lines[i]? with
  | some line => rw [List.getD_eq_getElem?_getD, hline]; rfl
  | none =>
    rw [List.getD_eq_getElem?_getD, hline] at h
    cases h.visible

/-- A block before line `i` was opened by an earlier line, which did not close it again; its width
is the length of that line. -/
structure OpenedBefore (lines : List Line) (i : Nat) (b : OpenBlock) : Prop where
  line_lt : b.line < i
  opens : OpensWith (lines.getD b.line []) b.kind
  notCloses : ¬ ClosesBlock (lines.getD b.line [])
  width_eq : b.width = (lines.getD b.line []).length

/-- Every open block was opened by an earlier line. -/
theorem openedBefore_of_mem_blocks {lines : List Line} {i : Nat} {b : OpenBlock}
    (h : b ∈ (nestingBefore lines i).blocks) : OpenedBefore lines i b := by
  induction i with
  | zero => cases h
  | succ i ih =>
    have earlier (h : b ∈ (nestingBefore lines i).blocks) : OpenedBefore lines (i + 1) b :=
      { ih h with line_lt := Nat.lt_succ_of_lt (ih h).line_lt }
    simp only [nestingBefore] at h
    rcases (nestingBefore lines i).stepLine_cases i (lines.getD i []) with ⟨-, heq⟩ |
      ⟨kind, hopens, hcloses, heq⟩ | ⟨b', rest, -, -, hb, heq⟩ | ⟨-, -, -, heq⟩
    · rw [heq] at h; exact earlier h
    · rw [heq] at h
      rcases List.mem_cons.1 h with rfl | h
      · exact ⟨Nat.lt_succ_self i, hopens, hcloses, rfl⟩
      · exact earlier h
    · rw [heq] at h; exact earlier (hb ▸ List.mem_cons_of_mem _ h)
    · rw [heq] at h; exact earlier h

/-! ## The check of a script -/

namespace Structure

/-- The findings from a line on are those of the lines from there on and of the nesting at the
end. -/
theorem checkFrom_eq (registry : Registry) (hostNotes : Bool) {lines rest : List Line} {k : Nat}
    (h : lines.drop k = rest) :
    checkFrom registry hostNotes k (nestingBefore lines k) rest =
      (rest.mapIdx fun i line =>
        lineFindings registry hostNotes (k + i) (stepAt lines (k + i)) line).flatten ++
        openFindings (nestingBefore lines (k + rest.length)) := by
  induction rest generalizing k with
  | nil => rfl
  | cons line rest ih =>
    have hline : lines.getD k [] = line := by
      rw [List.getD_eq_getElem?_getD, ← List.head?_drop, h]
      rfl
    have hrest : lines.drop (k + 1) = rest := by rw [← List.drop_drop, h]; rfl
    have hstep : (nestingBefore lines k).stepLine k line = stepAt lines k := by
      rw [stepAt, hline]
    simp only [checkFrom, hstep]
    rw [List.mapIdx_cons, List.flatten_cons, List.append_assoc, List.length_cons,
      Nat.add_comm rest.length, ← Nat.add_assoc]
    have ih := ih hrest
    simp only [Nat.add_assoc, Nat.add_comm 1] at ih ⊢
    exact congrArg _ ih

/-- The check lists the findings of each line at the nesting before it, and then those about the
nesting at the end. -/
theorem check_eq (registry : Registry) (hostNotes : Bool) (lines : List Line) :
    check registry hostNotes lines =
      (lines.mapIdx fun i line =>
        lineFindings registry hostNotes i (stepAt lines i) line).flatten ++
        openFindings (nestingBefore lines lines.length) := by
  have h := checkFrom_eq registry hostNotes (k := 0) (List.drop_zero (l := lines))
  simp only [Nat.zero_add] at h
  exact h

/-! ## Findings by line and by issue -/

/-- The check of quotes finds unclosed strings, on its line. -/
theorem kind_of_mem_quoteFindings {i : Nat} {line : Line} {f : Finding}
    (hf : f ∈ quoteFindings i line) : f.line = i ∧ f.issue.kind = .unclosedString := by
  unfold quoteFindings at hf
  split at hf
  · cases hf
  · rw [List.mem_singleton.1 hf]
    exact ⟨rfl, rfl⟩

/-- The check of `end` finds stray ones, on its line. -/
theorem kind_of_mem_endFindings {i : Nat} {line : Line} {stray : Bool} {f : Finding}
    (hf : f ∈ endFindings i line stray) : f.line = i ∧ f.issue.kind = .strayEnd := by
  unfold endFindings at hf
  split at hf
  · rw [List.mem_singleton.1 hf]
    exact ⟨rfl, rfl⟩
  · cases hf

/-- The check of loop control finds stray words, on its line. -/
theorem kind_of_mem_loopFindings {i : Nat} {line : Line} {text : List Char} {depth : Int}
    {f : Finding} (hf : f ∈ loopFindings i line text depth) :
    f.line = i ∧ f.issue.kind = .strayLoopControl := by
  unfold loopFindings at hf
  split at hf
  · cases hf
  · rw [List.mem_singleton.1 hf]
    exact ⟨rfl, rfl⟩

/-- The check of declarations finds unknown types, on its line. -/
theorem kind_of_mem_typeFindings {i : Nat} {line : Line} {f : Finding}
    (hf : f ∈ typeFindings i line) : f.line = i ∧ f.issue.kind = .unknownType := by
  unfold typeFindings at hf
  split at hf
  · cases hf
  · dsimp only at hf
    split at hf
    · cases hf
    · rw [List.mem_singleton.1 hf]
      exact ⟨rfl, rfl⟩

/-- The check of calls finds functions of the host, on its line. -/
theorem kind_of_mem_callFindings {registry : Registry} {i : Nat} {masked : MaskedLine}
    {f : Finding} (hf : f ∈ callFindings registry i masked) :
    f.line = i ∧ f.issue.kind = .hostFunction := by
  obtain ⟨call, -, hf⟩ := List.mem_filterMap.1 hf
  simp only [Option.ite_none_right_eq_some, Option.some.injEq] at hf
  rw [← hf.2]
  exact ⟨rfl, rfl⟩

/-- What is found at the end of the script is blocks left open. -/
theorem kind_of_mem_openFindings {nesting : Nesting} {f : Finding}
    (hf : f ∈ openFindings nesting) : f.issue.kind = .unclosedBlock := by
  unfold openFindings at hf
  split at hf
  · cases hf
  · rw [List.mem_singleton.1 hf]
    rfl

/-- The findings of each kind on a line are those of one rule. -/
theorem filter_kind_lineFindings (registry : Registry) (hostNotes : Bool) (i : Nat)
    (step : Nesting.Step) {line : Line} (hline : isSkippable line = false) (kind : IssueKind) :
    (lineFindings registry hostNotes i step line).filter (·.issue.kind = kind) =
      match kind with
      | .unclosedString => quoteFindings i line
      | .strayEnd => endFindings i line step.strayEnd
      | .strayLoopControl => loopFindings i line (codeText line) step.after.loopDepth
      | .unknownType => typeFindings i line
      | .hostFunction =>
        if hostNotes then callFindings registry i (maskLine .commentFirst line) else []
      | .unclosedBlock | .undefinedVariable => [] := by
  have hcalls : ∀ f ∈ (if hostNotes then callFindings registry i (maskLine .commentFirst line)
      else []), f.issue.kind = .hostFunction := by
    split
    · exact fun f hf => (kind_of_mem_callFindings hf).2
    · nofun
  simp only [lineFindings, hline, Bool.false_eq_true, if_false, List.filter_append]
  rw [filter_kind_eq (fun f hf => (kind_of_mem_quoteFindings hf).2),
    filter_kind_eq (fun f hf => (kind_of_mem_endFindings hf).2),
    filter_kind_eq (fun f hf => (kind_of_mem_loopFindings hf).2),
    filter_kind_eq (fun f hf => (kind_of_mem_typeFindings hf).2), filter_kind_eq hcalls]
  cases kind <;> simp [codeText]

/-- The findings of a line name that line. -/
theorem line_of_mem_lineFindings {registry : Registry} {hostNotes : Bool} {i : Nat}
    {step : Nesting.Step} {line : Line} {f : Finding}
    (hf : f ∈ lineFindings registry hostNotes i step line) : f.line = i := by
  unfold lineFindings at hf
  split at hf
  · cases hf
  · simp only [List.mem_append] at hf
    rcases hf with (((hf | hf) | hf) | hf) | hf
    · exact (kind_of_mem_quoteFindings hf).1
    · exact (kind_of_mem_endFindings hf).1
    · exact (kind_of_mem_loopFindings hf).1
    · exact (kind_of_mem_typeFindings hf).1
    · split at hf
      · exact (kind_of_mem_callFindings hf).1
      · cases hf

/-- A line with findings takes part in the check. -/
theorem visible_of_mem_lineFindings {registry : Registry} {hostNotes : Bool} {i : Nat}
    {step : Nesting.Step} {line : Line} {f : Finding}
    (hf : f ∈ lineFindings registry hostNotes i step line) : isSkippable line = false := by
  by_contra hskip
  rw [lineFindings, if_pos (by simpa using hskip)] at hf
  cases hf

/-- The findings on line `i` of any kind but open blocks are those of that line at its nesting. -/
theorem filter_line_check (registry : Registry) (hostNotes : Bool) (lines : List Line) (i : Nat)
    {kind : IssueKind} (hkind : kind ≠ .unclosedBlock) :
    (check registry hostNotes lines).filter (fun f => f.line = i ∧ f.issue.kind = kind) =
      (lineFindings registry hostNotes i (stepAt lines i) (lines.getD i [])).filter
        (·.issue.kind = kind) := by
  have hopen : (openFindings (nestingBefore lines lines.length)).filter
      (fun f => f.line = i ∧ f.issue.kind = kind) = [] := by
    refine List.filter_eq_nil_iff.2 fun f hf => ?_
    simp [kind_of_mem_openFindings hf, Ne.symm hkind]
  rw [check_eq, List.filter_append, hopen, List.append_nil]
  have h := filter_flatten_mapIdx (k := 0)
    (g := fun j line => lineFindings registry hostNotes j (stepAt lines j) line)
    (fun j line f hf => (line_of_mem_lineFindings hf).trans (Nat.zero_add j).symm)
    (fun _ => rfl) i (·.issue.kind = kind) lines
  rw [Nat.zero_add] at h
  rw [← h]
  refine List.filter_congr fun f _ => ?_
  rw [Bool.decide_and]
  rfl

/-- The findings of one kind on line `i` are those of the rule that reports this kind, unless the
line is skippable. -/
theorem filter_rule_check {registry : Registry} {hostNotes : Bool} {lines : List Line} {i : Nat}
    {kind : IssueKind} {found : List Finding} (hkind : kind ≠ .unclosedBlock)
    (hrule : isSkippable (lines.getD i []) = false →
      (lineFindings registry hostNotes i (stepAt lines i) (lines.getD i [])).filter
        (·.issue.kind = kind) = found) :
    (check registry hostNotes lines).filter (fun f => f.line = i ∧ f.issue.kind = kind) =
      if isSkippable (lines.getD i []) then [] else found := by
  rw [filter_line_check registry hostNotes lines i hkind]
  split
  · next hskip => rw [lineFindings, if_pos hskip, List.filter_nil]
  · next hskip => exact hrule (Bool.eq_false_iff.2 hskip)

/-- The findings about open blocks are those at the end. -/
theorem filter_unclosedBlock_check (registry : Registry) (hostNotes : Bool) (lines : List Line) :
    (check registry hostNotes lines).filter (·.issue.kind = .unclosedBlock) =
      openFindings (nestingBefore lines lines.length) := by
  have hlines : ((lines.mapIdx fun i line =>
      lineFindings registry hostNotes i (stepAt lines i) line).flatten.filter
        (·.issue.kind = .unclosedBlock)) = [] := by
    refine List.filter_eq_nil_iff.2 fun f hf => ?_
    obtain ⟨i, line, -, hf⟩ := mem_flatten_mapIdx.1 hf
    have hnone := filter_kind_lineFindings registry hostNotes i (stepAt lines i)
      (visible_of_mem_lineFindings hf) .unclosedBlock
    exact List.filter_eq_nil_iff.1 hnone f hf
  rw [check_eq, List.filter_append, hlines, List.nil_append]
  exact List.filter_eq_self.2 fun f hf => by simp [kind_of_mem_openFindings hf]

end Structure

end ScriptLint
