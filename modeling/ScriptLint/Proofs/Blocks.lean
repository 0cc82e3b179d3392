import Mathlib.Combinatorics.Enumerative.DyckWord
import Mathlib.Order.Bounds.Basic
import ScriptLint.Proofs.Nesting

/-!
# Blocks without a stack

The check keeps a stack of open blocks and goes on after an `end` too many. Its findings about
blocks and loop control can be told without a stack, from the number of blocks that the lines open
less the number that they close (`level`):

* a line has an `end` too many if the level behind it is lower than ever before
  (`strayEnd_stepAt`);
* line `k` has a block on the stack if it opens one, does not close it, and the level has not been
  lower since (`StaysOpen`, `stackExact_nestingBefore`);
* the stack is as high as the level lies above its lowest value so far.

`block_findings_exact` and `loop_findings_exact` state what follows for the findings of a script.
-/

namespace ScriptLint

/-! ## Levels -/

/-- What a line adds to the level: one for a block that it opens, less one for a block that it
closes. -/
def eventWeight (line : Line) : Int :=
  (if OpensBlock line then 1 else 0) - if ClosesBlock line then 1 else 0

/-- The level before line `n`: the blocks opened less the blocks closed by the lines before it. -/
def level (lines : List Line) (n : Nat) : Int := ((lines.take n).map eventWeight).sum

/-- The lowest level up to line `n`, before the first line included. -/
def lowest (lines : List Line) : Nat → Int
  | 0 => 0
  | n + 1 => min (lowest lines n) (level lines (n + 1))

/-- No block is open before the first line. -/
@[simp] theorem level_zero (lines : List Line) : level lines 0 = 0 := rfl

/-- A line that takes no part leaves the level. -/
theorem eventWeight_of_skippable {line : Line} (h : isSkippable line = true) :
    eventWeight line = 0 := by
  have hopens : ¬ OpensBlock line := fun ho => by simp [ho.visible] at h
  have hcloses : ¬ ClosesBlock line := fun hc => by simp [hc.1] at h
  rw [eventWeight, if_neg hopens, if_neg hcloses]
  rfl

/-- A line changes the level by its own weight. -/
theorem level_succ (lines : List Line) (n : Nat) :
    level lines (n + 1) = level lines n + eventWeight (lines.getD n []) := by
  rw [level, List.take_add_one, List.map_append, List.sum_append, level,
    List.getD_eq_getElem?_getD]
  have hempty : eventWeight [] = 0 := eventWeight_of_skippable rfl
  cases lines[n]? with
  | some line => simp
  | none => simp [hempty]

/-- Behind the first line the levels are those of the other lines, counted from its weight. -/
theorem level_cons (line : Line) (lines : List Line) (n : Nat) :
    level (line :: lines) (n + 1) = eventWeight line + level lines n := by
  rw [level, List.take_succ_cons, List.map_cons, List.sum_cons, level]

/-- A line that opens and closes, or does neither, has no weight. -/
theorem eventWeight_of_iff {line : Line} (h : OpensBlock line ↔ ClosesBlock line) :
    eventWeight line = 0 := by
  by_cases hc : ClosesBlock line <;> simp [eventWeight, h, hc]

/-- A line that only opens a block weighs one. -/
theorem eventWeight_of_opens {line : Line} (ho : OpensBlock line) (hc : ¬ ClosesBlock line) :
    eventWeight line = 1 := by simp [eventWeight, ho, hc]

/-- A line that only closes a block weighs minus one. -/
theorem eventWeight_of_closes {line : Line} (ho : ¬ OpensBlock line) (hc : ClosesBlock line) :
    eventWeight line = -1 := by simp [eventWeight, ho, hc]

/-! ## The stack and the levels -/

/-- The block that line `k` opens is still open before line `n`: the line does not close it, and the
level behind no line since is lower than the level behind line `k`. -/
structure StaysOpen (lines : List Line) (n k : Nat) : Prop where
  lt : k < n
  opens : OpensBlock (lines.getD k [])
  notCloses : ¬ ClosesBlock (lines.getD k [])
  level_le : ∀ j, k ≤ j → j < n → level lines (k + 1) ≤ level lines (j + 1)

/-- One line more keeps a block open if the level does not fall below its own. -/
theorem staysOpen_succ {lines : List Line} {n k : Nat} (hk : k < n) :
    StaysOpen lines (n + 1) k ↔
      StaysOpen lines n k ∧ level lines (k + 1) ≤ level lines (n + 1) := by
  constructor
  · intro h
    exact ⟨⟨hk, h.opens, h.notCloses, fun j hkj hj => h.level_le j hkj (Nat.lt_succ_of_lt hj)⟩,
      h.level_le n (Nat.le_of_lt hk) (Nat.lt_succ_self n)⟩
  · rintro ⟨h, hlevel⟩
    refine ⟨Nat.lt_succ_of_lt hk, h.opens, h.notCloses, fun j hkj hj => ?_⟩
    rcases Nat.lt_succ_iff_lt_or_eq.1 hj with hj | rfl
    · exact h.level_le j hkj hj
    · exact hlevel

/-- The level before line `n` is not lower than that of a block that is open there. -/
theorem StaysOpen.level_le_level {lines : List Line} {n k : Nat} (h : StaysOpen lines n k) :
    level lines (k + 1) ≤ level lines n := by
  obtain ⟨m, rfl⟩ : ∃ m, n = m + 1 := ⟨n - 1, by have := h.lt; omega⟩
  exact h.level_le m (Nat.lt_succ_iff.1 h.lt) (Nat.lt_succ_self m)

/-- The stack before line `n`, told by levels: the blocks on it are those that stay open, the levels
go down by one from block to block, and its height is the distance from the lowest level. -/
structure StackExact (lines : List Line) (n : Nat) (blocks : List OpenBlock) : Prop where
  mem_iff : ∀ k, (∃ b ∈ blocks, b.line = k) ↔ StaysOpen lines n k
  level_eq : ∀ (p : Nat) (b : OpenBlock), blocks[p]? = some b →
      level lines (b.line + 1) = level lines n - p
  length_eq : (blocks.length : Int) = level lines n - lowest lines n

/-- No level lies below the lowest one so far. -/
theorem StackExact.lowest_le {lines : List Line} {n : Nat} {blocks : List OpenBlock}
    (h : StackExact lines n blocks) : lowest lines n ≤ level lines n := by
  have := h.length_eq
  omega

/-- The stack is empty where no block stays open and the level is at its lowest. -/
theorem StackExact.of_nil {lines : List Line} {n : Nat} (hopen : ∀ k, ¬ StaysOpen lines n k)
    (hlow : level lines n = lowest lines n) : StackExact lines n [] where
  mem_iff k := iff_of_false (by rintro ⟨b, hb, -⟩; cases hb) (hopen k)
  level_eq p b hb := by simp at hb
  length_eq := by rw [hlow, Int.sub_self]; rfl

/-- A line that leaves the nesting leaves the level. -/
theorem StackExact.stay {lines : List Line} {n : Nat} {blocks : List OpenBlock}
    (h : StackExact lines n blocks)
    (hline : OpensBlock (lines.getD n []) ↔ ClosesBlock (lines.getD n [])) :
    StackExact lines (n + 1) blocks := by
  have hlevel : level lines (n + 1) = level lines n := by
    rw [level_succ, eventWeight_of_iff hline, Int.add_zero]
  refine ⟨fun k => ?_, ?_, ?_⟩
  · rw [h.mem_iff]
    rcases Nat.lt_or_ge k n with hk | hk
    · rw [staysOpen_succ hk, hlevel]
      exact ⟨fun hs => ⟨hs, hs.level_le_level⟩, And.left⟩
    · refine ⟨fun hs => absurd hs.lt (Nat.not_lt.2 hk), fun hs => ?_⟩
      obtain rfl : k = n := Nat.le_antisymm (Nat.lt_succ_iff.1 hs.lt) hk
      exact absurd (hline.1 hs.opens) hs.notCloses
  · rw [hlevel]; exact h.level_eq
  · have := h.lowest_le
    rw [lowest, hlevel, Int.min_eq_left this]
    exact h.length_eq

/-- A line that only opens a block puts it on the stack. -/
theorem StackExact.opened {lines : List Line} {n : Nat} {blocks : List OpenBlock}
    (h : StackExact lines n blocks) (ho : OpensBlock (lines.getD n []))
    (hc : ¬ ClosesBlock (lines.getD n [])) {b : OpenBlock} (hb : b.line = n) :
    StackExact lines (n + 1) (b :: blocks) := by
  have hlevel : level lines (n + 1) = level lines n + 1 := by
    rw [level_succ, eventWeight_of_opens ho hc]
  refine ⟨fun k => ?_, ?_, ?_⟩
  · rcases Nat.lt_or_ge k n with hk | hk
    · have hold : (∃ b' ∈ b :: blocks, b'.line = k) ↔ ∃ b' ∈ blocks, b'.line = k := by
        rw [List.exists_mem_cons_iff, or_iff_right (by omega)]
      rw [hold, h.mem_iff, staysOpen_succ hk]
      refine ⟨fun hs => ⟨hs, ?_⟩, And.left⟩
      have := hs.level_le_level
      omega
    · constructor
      · rintro ⟨b', hb', rfl⟩
        rcases List.mem_cons.1 hb' with rfl | hb'
        · rw [hb]
          refine ⟨Nat.lt_succ_self n, ho, hc, fun j hnj hj => ?_⟩
          obtain rfl : n = j := Nat.le_antisymm hnj (Nat.lt_succ_iff.1 hj)
          exact Int.le_refl _
        · exact absurd ((h.mem_iff _).1 ⟨b', hb', rfl⟩).lt (Nat.not_lt.2 hk)
      · intro hs
        exact ⟨b, List.mem_cons_self, hb.trans (Nat.le_antisymm hk (Nat.lt_succ_iff.1 hs.lt))⟩
  · rintro (_ | p) b' hb'
    · obtain rfl : b = b' := by simpa using hb'
      rw [hb]; simp
    · have := h.level_eq p b' (by simpa using hb')
      rw [this, hlevel]
      omega
  · have := h.length_eq
    rw [List.length_cons, lowest, hlevel]
    omega

/-- A line that only closes a block takes it from the stack. -/
theorem StackExact.closed {lines : List Line} {n : Nat} {b : OpenBlock} {blocks : List OpenBlock}
    (h : StackExact lines n (b :: blocks)) (ho : ¬ OpensBlock (lines.getD n []))
    (hc : ClosesBlock (lines.getD n [])) : StackExact lines (n + 1) blocks := by
  have hlevel : level lines (n + 1) = level lines n - 1 := by
    rw [level_succ, eventWeight_of_closes ho hc]; rfl
  have htop : level lines (b.line + 1) = level lines n := by
    have := h.level_eq 0 b rfl
    omega
  refine ⟨fun k => ?_, ?_, ?_⟩
  · constructor
    · rintro ⟨b', hb', rfl⟩
      -- the blocks below the innermost one lie below its level
      obtain ⟨p, hp⟩ := List.mem_iff_getElem?.1 hb'
      have hbelow := h.level_eq (p + 1) b' (by simpa using hp)
      have hs := (h.mem_iff b'.line).1 ⟨b', List.mem_cons_of_mem _ hb', rfl⟩
      rw [staysOpen_succ hs.lt]
      exact ⟨hs, by omega⟩
    · intro hs
      have hk : k < n := by
        rcases Nat.lt_succ_iff_lt_or_eq.1 hs.lt with hk | rfl
        · exact hk
        · exact absurd hs.opens ho
      rw [staysOpen_succ hk] at hs
      obtain ⟨b', hb', rfl⟩ := (h.mem_iff k).2 hs.1
      rcases List.mem_cons.1 hb' with rfl | hb'
      · have := hs.2
        omega
      · exact ⟨b', hb', rfl⟩
  · intro p b' hb'
    have := h.level_eq (p + 1) b' (by simpa using hb')
    rw [this, hlevel]
    omega
  · have := h.length_eq
    rw [List.length_cons] at this
    rw [lowest, hlevel]
    omega

/-- An `end` too many lowers the lowest level. -/
theorem StackExact.stray {lines : List Line} {n : Nat} (h : StackExact lines n [])
    (ho : ¬ OpensBlock (lines.getD n [])) (hc : ClosesBlock (lines.getD n [])) :
    StackExact lines (n + 1) [] := by
  have hlevel : level lines (n + 1) = level lines n - 1 := by
    rw [level_succ, eventWeight_of_closes ho hc]; rfl
  refine .of_nil (fun k hs => ?_) ?_
  · rcases Nat.lt_succ_iff_lt_or_eq.1 hs.lt with hk | rfl
    · obtain ⟨b, hb, -⟩ := (h.mem_iff k).2 ((staysOpen_succ hk).1 hs).1
      cases hb
    · exact ho hs.opens
  · have := h.length_eq
    rw [List.length_nil] at this
    rw [lowest, hlevel]
    omega

/-- The stack of a run is exact before every line. -/
theorem stackExact_nestingBefore (lines : List Line) (n : Nat) :
    StackExact lines n (nestingBefore lines n).blocks := by
  induction n with
  | zero => exact .of_nil (fun k hs => Nat.not_lt_zero k hs.lt) rfl
  | succ n ih =>
    rw [nestingBefore]
    rcases (nestingBefore lines n).stepLine_cases n (lines.getD n []) with ⟨hline, heq⟩ |
      ⟨kind, ho, hc, heq⟩ | ⟨b, rest, ho, hc, hb, heq⟩ | ⟨ho, hc, hb, heq⟩
    · rw [heq]; exact ih.stay hline
    · rw [heq]; exact ih.opened ho.1 hc rfl
    · rw [heq]; exact (hb ▸ ih).closed ho hc
    · rw [heq]
      show StackExact lines (n + 1) (nestingBefore lines n).blocks
      rw [hb]
      exact (hb ▸ ih).stray ho hc

/-- A line has an `end` too many if the level behind it is lower than ever before. -/
theorem strayEnd_stepAt (lines : List Line) (n : Nat) :
    (stepAt lines n).strayEnd = true ↔ level lines (n + 1) < lowest lines n := by
  have h := stackExact_nestingBefore lines n
  have hlen := h.length_eq
  have hle := h.lowest_le
  rw [level_succ, stepAt]
  rcases (nestingBefore lines n).stepLine_cases n (lines.getD n []) with ⟨hline, heq⟩ |
    ⟨kind, ho, hc, heq⟩ | ⟨b, rest, ho, hc, hb, heq⟩ | ⟨ho, hc, hb, heq⟩
  · rw [heq, eventWeight_of_iff hline]
    exact iff_of_false Bool.false_ne_true (by omega)
  · rw [heq, eventWeight_of_opens ho.1 hc]
    exact iff_of_false Bool.false_ne_true (by omega)
  · rw [hb, List.length_cons] at hlen
    rw [heq, eventWeight_of_closes ho hc]
    exact iff_of_false Bool.false_ne_true (by omega)
  · rw [hb, List.length_nil] at hlen
    rw [heq, eventWeight_of_closes ho hc]
    exact iff_of_true rfl (by omega)

/-- The innermost open block was opened by the last line whose block stays open. -/
theorem isGreatest_line_of_blocks_eq_cons {lines : List Line} {n : Nat} {b : OpenBlock}
    {rest : List OpenBlock} (h : (nestingBefore lines n).blocks = b :: rest) :
    IsGreatest {k | StaysOpen lines n k} b.line := by
  have hstack : StackExact lines n (b :: rest) := h ▸ stackExact_nestingBefore lines n
  have hb := (hstack.mem_iff b.line).1 ⟨b, List.mem_cons_self, rfl⟩
  refine ⟨hb, fun k hk => ?_⟩
  obtain ⟨b', hb', rfl⟩ := (hstack.mem_iff k).2 hk
  obtain ⟨p, hp⟩ := List.mem_iff_getElem?.1 hb'
  have hlevel := hstack.level_eq p b' hp
  have htop := hstack.level_eq 0 b rfl
  by_contra hlt
  -- a later block would lie above the innermost one
  have hge := hb.level_le b'.line (by omega) hk.lt
  obtain rfl : p = 0 := by omega
  obtain rfl : b = b' := by simpa using hp
  omega

/-! ## Balanced words -/

/-- The events of a line as brackets: the block that it opens, then the block that it closes. -/
def lineWord (line : Line) : List DyckStep :=
  (if OpensBlock line then [.U] else []) ++ if ClosesBlock line then [.D] else []

/-- The events of a script as brackets. -/
def blockWord (lines : List Line) : List DyckStep := lines.flatMap lineWord

/-- How many more brackets a word opens than it closes. -/
def height (word : List DyckStep) : Int := word.count .U - word.count .D

/-- Heights add up. -/
theorem height_append (v w : List DyckStep) : height (v ++ w) = height v + height w := by
  simp only [height, List.count_append]
  omega

/-- The brackets of a line add up to its weight. -/
theorem height_lineWord (line : Line) : height (lineWord line) = eventWeight line := by
  unfold lineWord eventWeight
  split <;> split <;> decide

/-- The brackets of the lines before line `n` add up to its level. -/
theorem height_blockWord_take (lines : List Line) (n : Nat) :
    height (blockWord (lines.take n)) = level lines n := by
  rw [level]
  induction lines.take n with
  | nil => rfl
  | cons line rest ih =>
    rw [blockWord, List.flatMap_cons, height_append, height_lineWord, List.map_cons, List.sum_cons]
    exact congrArg _ ih

/-- Inside a line the height stays above one of the levels at its two ends. -/
theorem le_height_take_lineWord (line : Line) (i : Nat) :
    min 0 (eventWeight line) ≤ height ((lineWord line).take i) := by
  unfold lineWord eventWeight
  rcases i with _ | _ | i <;> split <;> split <;> simp [height]

/-- From a height at which no level of a script goes below zero, no part of its brackets does. -/
theorem height_take_blockWord_nonneg {lines : List Line} {d : Int}
    (h : ∀ n, 0 ≤ d + level lines n) (i : Nat) : 0 ≤ d + height ((blockWord lines).take i) := by
  induction lines generalizing d i with
  | nil =>
    have := h 0
    rw [blockWord, List.flatMap_nil, List.take_nil]
    simpa [height] using this
  | cons line lines ih =>
    have hstart := h 0
    have hend := h 1
    rw [level_zero] at hstart
    rw [level_cons, level_zero] at hend
    rw [blockWord, List.flatMap_cons, List.take_append, height_append]
    rcases Nat.le_total i (lineWord line).length with hi | hi
    · have := le_height_take_lineWord line i
      rw [Nat.sub_eq_zero_of_le hi, List.take_zero]
      simp only [height, List.count_nil] at this ⊢
      omega
    · have hlevel (n : Nat) : 0 ≤ d + eventWeight line + level lines n := by
        have := h (n + 1)
        rw [level_cons] at this
        omega
      have := ih hlevel (i - (lineWord line).length)
      rw [List.take_of_length_le hi, height_lineWord, ← Int.add_assoc]
      exact this

/-- The brackets of a script are balanced if no level is below zero and the last one is zero. -/
theorem exists_dyckWord_iff {lines : List Line} :
    (∃ w : DyckWord, w.toList = blockWord lines) ↔
      (∀ n, 0 ≤ level lines n) ∧ level lines lines.length = 0 := by
  constructor
  · rintro ⟨w, hw⟩
    refine ⟨fun n => ?_, ?_⟩
    · have hsplit : blockWord lines = blockWord (lines.take n) ++ blockWord (lines.drop n) := by
        rw [blockWord, blockWord, blockWord, ← List.flatMap_append, List.take_append_drop]
      have := w.count_D_le_count_U (blockWord (lines.take n)).length
      rw [hw, hsplit, List.take_left] at this
      rw [← height_blockWord_take, height]
      omega
    · have := w.count_U_eq_count_D
      rw [← height_blockWord_take, List.take_length, height, ← hw]
      omega
  · rintro ⟨hnonneg, hlast⟩
    refine ⟨⟨blockWord lines, ?_, fun i => ?_⟩, rfl⟩
    · rw [← height_blockWord_take, List.take_length, height] at hlast
      omega
    · have hzero (n : Nat) : 0 ≤ 0 + level lines n := by rw [Int.zero_add]; exact hnonneg n
      have := height_take_blockWord_nonneg hzero i
      rw [height] at this
      omega

/-- The lowest level stays zero if no line falls below it. -/
theorem lowest_eq_zero {lines : List Line} {n : Nat}
    (h : ∀ i, lowest lines i ≤ level lines (i + 1)) : lowest lines n = 0 := by
  induction n with
  | zero => rfl
  | succ n ih => rw [lowest, Int.min_eq_left (h n), ih]

/-- The brackets are balanced if no line falls below the lowest level before it and the last level
is the lowest. -/
theorem exists_dyckWord_iff_lowest {lines : List Line} :
    (∃ w : DyckWord, w.toList = blockWord lines) ↔
      (∀ i, lowest lines i ≤ level lines (i + 1)) ∧
        level lines lines.length ≤ lowest lines lines.length := by
  rw [exists_dyckWord_iff]
  constructor
  · rintro ⟨hnonneg, hlast⟩
    have hlow (n : Nat) : lowest lines n = 0 := by
      induction n with
      | zero => rfl
      | succ n ih => rw [lowest, ih, Int.min_eq_left (hnonneg (n + 1))]
    exact ⟨fun i => by rw [hlow]; exact hnonneg (i + 1), by rw [hlow, hlast]⟩
  · rintro ⟨hfall, hlast⟩
    have hle (n : Nat) : 0 ≤ level lines n := by
      have := (stackExact_nestingBefore lines n).lowest_le
      rwa [lowest_eq_zero hfall] at this
    refine ⟨hle, ?_⟩
    rw [lowest_eq_zero hfall] at hlast
    exact Int.le_antisymm hlast (hle _)

/-! ## The findings about blocks -/

section Findings
variable (registry : Registry) (hostNotes : Bool) (lines : List Line)

/-- A line has one finding about an `end` too many if the level behind it is lower than ever before,
and none otherwise. -/
theorem filter_strayEnd_check (i : Nat) :
    (Structure.check registry hostNotes lines).filter
        (fun f => f.line = i ∧ f.issue.kind = .strayEnd) =
      if level lines (i + 1) < lowest lines i then
        [Structure.contentFinding i (lines.getD i []) .strayEnd]
      else [] := by
  rw [Structure.filter_rule_check (by decide) fun hskip =>
    Structure.filter_kind_lineFindings registry hostNotes i _ hskip .strayEnd]
  split
  · next hskip =>
    have hlow := (stackExact_nestingBefore lines i).lowest_le
    rw [if_neg]
    rw [level_succ, eventWeight_of_skippable hskip]
    omega
  · exact if_congr (strayEnd_stepAt lines i) rfl rfl

/-- The finding about an open block is about the last line whose block stays open, and there is one
if the last level is not the lowest. -/
theorem filter_unclosedBlock_check_eq :
    (lowest lines lines.length < level lines lines.length →
      ∃ i line kind, IsGreatest {k | StaysOpen lines lines.length k} i ∧ lines[i]? = some line ∧
        FirstOpener (codeText line) kind ∧
        (Structure.check registry hostNotes lines).filter (·.issue.kind = .unclosedBlock) =
          [⟨i, 0, line.length, .unclosedBlock kind⟩]) ∧
    (level lines lines.length ≤ lowest lines lines.length →
      (Structure.check registry hostNotes lines).filter (·.issue.kind = .unclosedBlock) = []) := by
  have hlen := (stackExact_nestingBefore lines lines.length).length_eq
  rw [Structure.filter_unclosedBlock_check, Structure.openFindings]
  cases hblocks : (nestingBefore lines lines.length).blocks with
  | nil =>
    rw [hblocks, List.length_nil] at hlen
    exact ⟨fun h => by omega, fun _ => rfl⟩
  | cons b rest =>
    rw [hblocks, List.length_cons] at hlen
    have hb := openedBefore_of_mem_blocks (hblocks ▸ List.mem_cons_self :
      b ∈ (nestingBefore lines lines.length).blocks)
    refine ⟨fun _ => ⟨b.line, lines.getD b.line [], b.kind,
      isGreatest_line_of_blocks_eq_cons hblocks, getElem?_of_opensBlock hb.opens.1, hb.opens.2, ?_⟩,
      fun h => by omega⟩
    dsimp only
    rw [hb.width_eq]

/-- The findings about blocks follow from the levels of the lines alone: an `end` too many is found
where the level falls below all before it, an open block if the last level is not the lowest, in the
last line whose block stays open, and nothing if the events of the lines are balanced brackets. -/
theorem block_findings_exact :
    (∀ i, (Structure.check registry hostNotes lines).filter
        (fun f => f.line = i ∧ f.issue.kind = .strayEnd) =
      if level lines (i + 1) < lowest lines i then
        [Structure.contentFinding i (lines.getD i []) .strayEnd]
      else []) ∧
    (lowest lines lines.length < level lines lines.length →
      ∃ i line kind, IsGreatest {k | StaysOpen lines lines.length k} i ∧ lines[i]? = some line ∧
        FirstOpener (codeText line) kind ∧
        (Structure.check registry hostNotes lines).filter (·.issue.kind = .unclosedBlock) =
          [⟨i, 0, line.length, .unclosedBlock kind⟩]) ∧
    (level lines lines.length ≤ lowest lines lines.length →
      (Structure.check registry hostNotes lines).filter (·.issue.kind = .unclosedBlock) = []) ∧
    ((∀ f ∈ Structure.check registry hostNotes lines,
        f.issue.kind ≠ .strayEnd ∧ f.issue.kind ≠ .unclosedBlock) ↔
      ∃ w : DyckWord, w.toList = blockWord lines) := by
  have hstray := filter_strayEnd_check registry hostNotes lines
  obtain ⟨hopen, hnone⟩ := filter_unclosedBlock_check_eq registry hostNotes lines
  refine ⟨hstray, hopen, hnone, ?_⟩
  rw [exists_dyckWord_iff_lowest]
  constructor
  · intro h
    refine ⟨fun i => Int.not_lt.1 fun hlt => ?_, Int.not_lt.1 fun hlt => ?_⟩
    · have hmem := hstray i
      rw [if_pos hlt] at hmem
      have hf := List.mem_filter.1 (hmem ▸ List.mem_singleton_self _)
      exact (h _ hf.1).1 (of_decide_eq_true hf.2).2
    · obtain ⟨i, line, kind, -, -, -, hmem⟩ := hopen hlt
      have hf := List.mem_filter.1 (hmem ▸ List.mem_singleton_self _)
      exact (h _ hf.1).2 (of_decide_eq_true hf.2)
  · rintro ⟨hfall, hlast⟩ f hf
    refine ⟨fun hkind => ?_, fun hkind => ?_⟩
    · have hmem := hstray f.line
      rw [if_neg (Int.not_lt.2 (hfall f.line)), List.filter_eq_nil_iff] at hmem
      exact hmem f hf (decide_eq_true ⟨rfl, hkind⟩)
    · exact List.filter_eq_nil_iff.1 (hnone hlast) f hf (decide_eq_true hkind)

/-- Behind an `end` too many the check goes on and finds the block that is open at the end. -/
theorem block_findings_exact_behind_stray_end :
    lowest ["end".toList, "if a".toList] 2 < level ["end".toList, "if a".toList] 2 ∧
    ∃ i line kind, IsGreatest {k | StaysOpen ["end".toList, "if a".toList] 2 k} i ∧
      ["end".toList, "if a".toList][i]? = some line ∧ FirstOpener (codeText line) kind ∧
      (Structure.check .empty false ["end".toList, "if a".toList]).filter
        (·.issue.kind = .unclosedBlock) = [⟨i, 0, line.length, .unclosedBlock kind⟩] := by
  have hlevel : lowest ["end".toList, "if a".toList] 2 < level ["end".toList, "if a".toList] 2 := by
    decide +kernel
  exact ⟨hlevel, (block_findings_exact _ _ _).2.1 hlevel⟩

end Findings

/-! ## The findings about loop control -/

/-- The words that leave or restart a loop are `break` and `continue`. -/
theorem LoopControl.exists_keyword_iff {word : String} :
    (∃ control : LoopControl, control.keyword = word) ↔ word = "break" ∨ word = "continue" := by
  constructor
  · rintro ⟨control, rfl⟩
    cases control <;> decide
  · rintro (rfl | rfl)
    · exact ⟨.breakLoop, rfl⟩
    · exact ⟨.continueLoop, rfl⟩

/-- A word is loop control if it is one of the two keywords. -/
theorem LoopControl.ofWord?_eq_some_iff {word : List Char} {control : LoopControl} :
    LoopControl.ofWord? word = some control ↔ word = control.keyword.toList :=
  find?_spelling_eq_some_iff (fun control : LoopControl => control.keyword.toList)
    fun control => by cases control <;> decide

/-- Loop control occurs in a text as one of its two words. -/
theorem occurs_loopControl {text : List Char} :
    Rules.loopControl.occurs text = true ↔
      ∃ control : LoopControl, HasWord text control.keyword.toList := by
  rw [Rules.loopControl, occurs_wordRule]
  constructor
  · rintro ⟨word, hword, hread⟩
    obtain ⟨control, hread⟩ := Option.isSome_iff_exists.1 hread
    exact ⟨control, LoopControl.ofWord?_eq_some_iff.1 hread ▸ hword⟩
  · rintro ⟨control, hword⟩
    exact ⟨_, hword, Option.isSome_iff_exists.2 ⟨control, LoopControl.ofWord?_eq_some_iff.2 rfl⟩⟩

namespace Structure

/-- Inside a loop, or without loop control, there is nothing to find. -/
theorem loopFindings_eq_nil {i : Nat} {line : Line} {text : List Char} {depth : Int}
    (h : 0 < depth ∨ ¬ ∃ control : LoopControl, HasWord text control.keyword.toList) :
    loopFindings i line text depth = [] := by
  rw [loopFindings, if_pos]
  rw [← occurs_loopControl] at h
  simpa using h

/-- Loop control outside of loops is found once, as `break` if that word is there. -/
theorem loopFindings_eq_singleton {i : Nat} {line : Line} {text : List Char} {depth : Int}
    (hdepth : ¬ 0 < depth) (hword : ∃ control : LoopControl, HasWord text control.keyword.toList) :
    ∃ control : LoopControl,
      loopFindings i line text depth = [contentFinding i line (.strayLoopControl control)] ∧
      (control = .breakLoop ↔ HasWord text "break".toList) := by
  rw [← occurs_loopControl] at hword
  rw [loopFindings, if_neg (by simpa [hword] using hdepth)]
  refine ⟨_, rfl, ?_⟩
  rw [← occurs_wordRule_eq, ← Rules.loopBreak]
  cases Rules.loopBreak.occurs text <;> simp

end Structure

/-- A line stands inside the loop that line `k` opens: the block of that line is a loop and is open
behind line `i`. -/
def InLoopOf (lines : List Line) (i k : Nat) : Prop :=
  StaysOpen lines (i + 1) k ∧
    ∃ kind : BlockKind, kind.isLoop = true ∧ FirstOpener (codeText (lines.getD k [])) kind

/-- The loop depth behind a line is positive if the line stands inside a loop. -/
theorem loopDepth_stepAt_pos {lines : List Line} {i : Nat} :
    0 < (stepAt lines i).after.loopDepth ↔ ∃ k, InLoopOf lines i k := by
  have hdepth : (stepAt lines i).after.loopDepth =
      (nestingBefore lines (i + 1)).blocks.countP (·.kind.isLoop) :=
    depthExact_nestingBefore lines (i + 1)
  have hstack := stackExact_nestingBefore lines (i + 1)
  rw [hdepth, Int.natCast_pos, List.countP_pos_iff]
  constructor
  · rintro ⟨b, hb, hloop⟩
    exact ⟨b.line, (hstack.mem_iff b.line).1 ⟨b, hb, rfl⟩, b.kind, hloop,
      (openedBefore_of_mem_blocks hb).opens.2⟩
  · rintro ⟨k, hopen, kind, hloop, hfirst⟩
    obtain ⟨b, hb, rfl⟩ := (hstack.mem_iff k).2 hopen
    have hkind := (openedBefore_of_mem_blocks hb).opens.kind_unique ⟨hopen.opens, hfirst⟩
    exact ⟨b, hb, hkind ▸ hloop⟩

/-- Loop control stands on a line outside of every loop. -/
structure LoopControlOutside (lines : List Line) (i : Nat) : Prop where
  visible : isSkippable (lines.getD i []) = false
  hasWord : ∃ control : LoopControl,
    HasWord (codeText (lines.getD i [])) control.keyword.toList
  outside : ¬ ∃ k, InLoopOf lines i k

/-- The loop depth is at every point of a run the number of loops on the stack, and loop control is
found exactly on the lines that have it outside of every loop, once, as `break` if that word is
there. -/
theorem loop_findings_exact (registry : Registry) (hostNotes : Bool) (lines : List Line) (i : Nat) :
    (nestingBefore lines i).DepthExact ∧
    ((nestingBefore lines i).openLine i (lines.getD i []).length
      (.ofLine (lines.getD i []))).DepthExact ∧
    (LoopControlOutside lines i → ∃ control : LoopControl,
      (Structure.check registry hostNotes lines).filter
          (fun f => f.line = i ∧ f.issue.kind = .strayLoopControl) =
        [Structure.contentFinding i (lines.getD i []) (.strayLoopControl control)] ∧
      (control = .breakLoop ↔ HasWord (codeText (lines.getD i [])) "break".toList)) ∧
    (¬ LoopControlOutside lines i →
      (Structure.check registry hostNotes lines).filter
        (fun f => f.line = i ∧ f.issue.kind = .strayLoopControl) = []) := by
  refine ⟨depthExact_nestingBefore lines i, (depthExact_nestingBefore lines i).openLine _ _ _, ?_⟩
  rw [Structure.filter_line_check registry hostNotes lines i (by decide)]
  cases hskip : isSkippable (lines.getD i []) with
  | true =>
    refine ⟨fun h => absurd (hskip.symm.trans h.visible) (by decide), fun _ => ?_⟩
    rw [Structure.lineFindings, if_pos hskip, List.filter_nil]
  | false =>
    rw [Structure.filter_kind_lineFindings registry hostNotes i _ hskip]
    refine ⟨fun h => Structure.loopFindings_eq_singleton (mt loopDepth_stepAt_pos.1 h.outside)
      h.hasWord, fun h => Structure.loopFindings_eq_nil ?_⟩
    rw [loopDepth_stepAt_pos]
    by_contra hneither
    rw [not_or, not_not] at hneither
    exact h ⟨hskip, hneither.2, hneither.1⟩

/-- A `break` behind the end of a loop is outside of it. -/
theorem loop_findings_exact_behind_loop :
    LoopControlOutside ["while a".toList, "end".toList, "break".toList] 2 ∧
    ∃ control : LoopControl,
      (Structure.check .empty false ["while a".toList, "end".toList, "break".toList]).filter
          (fun f => f.line = 2 ∧ f.issue.kind = .strayLoopControl) =
        [Structure.contentFinding 2 "break".toList (.strayLoopControl control)] ∧
      (control = .breakLoop ↔ HasWord (codeText "break".toList) "break".toList) := by
  have houtside : LoopControlOutside ["while a".toList, "end".toList, "break".toList] 2 :=
    ⟨by decide +kernel, occurs_loopControl.1 (by decide +kernel),
      mt loopDepth_stepAt_pos.2 (by decide +kernel)⟩
  exact ⟨houtside, (loop_findings_exact _ _ _ 2).2.2.1 houtside⟩

end ScriptLint
