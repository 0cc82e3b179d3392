import Mathlib.Data.List.GetD
import ScriptLint.Proofs.Insertion

/-!
# Scripts one behind the other

The check carries two things over a line: the open blocks, with the numbers of the lines that opened
them, and the number of open loops. Behind a script that leaves no block open both are as at the
start of a script (`nestingBefore_eq_empty`): an `end` too many and loop control outside of loops
leave no trace. So the check goes on there as at the start of the second script, with other line
numbers (`checkFrom_add`), and `check_append_of_closed` puts the two together.
-/

namespace ScriptLint

/-! ## The run over the first script -/

/-- Lines behind the first script have no influence on the nesting before one of its lines, or
behind the last one. -/
theorem nestingBefore_append (front back : List Line) {i : Nat} (h : i ≤ front.length) :
    nestingBefore (front ++ back) i = nestingBefore front i := by
  induction i with
  | zero => rfl
  | succ i ih =>
    rw [nestingBefore, nestingBefore, ih (Nat.le_of_succ_le h), List.getD_append _ _ _ _ h]

/-- Lines behind the first script have no influence on what one of its lines does. -/
theorem stepAt_append (front back : List Line) {i : Nat} (h : i < front.length) :
    stepAt (front ++ back) i = stepAt front i := by
  rw [stepAt, stepAt, nestingBefore_append front back (Nat.le_of_lt h), List.getD_append _ _ _ _ h]

/-- A nesting without open blocks has no open loops either, and is the one at the start of a
script. -/
theorem Nesting.DepthExact.eq_empty {n : Nesting} (h : n.DepthExact) (hblocks : n.blocks = []) :
    n = {} := by
  obtain ⟨blocks, depth⟩ := n
  dsimp only at hblocks
  subst hblocks
  have hdepth : depth = 0 := h
  rw [hdepth]

namespace Structure

section
variable (registry : Registry) (hostNotes : Bool)

/-- Nothing is found about the nesting at the end if no block is open there. -/
theorem blocks_eq_nil_of_openFindings {n : Nesting} (h : openFindings n = []) : n.blocks = [] := by
  unfold openFindings at h
  split at h
  · assumption
  · cases h

/-- Behind a script whose check finds no open block the nesting is the one at the start. -/
theorem nestingBefore_eq_empty {lines : List Line}
    (h : ∀ f ∈ check registry hostNotes lines, f.issue.kind ≠ .unclosedBlock) :
    nestingBefore lines lines.length = {} := by
  have hopen : openFindings (nestingBefore lines lines.length) = [] := by
    rw [← filter_unclosedBlock_check registry hostNotes, List.filter_eq_nil_iff]
    intro f hf
    simpa using h f hf
  exact (depthExact_nestingBefore lines lines.length).eq_empty (blocks_eq_nil_of_openFindings hopen)

/-- The check of two scripts one behind the other finds what it finds on the lines of the first one,
and then goes on in the nesting behind it. -/
theorem check_append (front back : List Line) :
    check registry hostNotes (front ++ back) =
      (front.mapIdx fun i line =>
        lineFindings registry hostNotes i (stepAt front i) line).flatten ++
        checkFrom registry hostNotes front.length (nestingBefore front front.length) back := by
  have hdrop : (front ++ back).drop front.length = back := List.drop_left
  have hback := checkFrom_eq registry hostNotes hdrop
  have hfront : (front.mapIdx fun i line =>
      lineFindings registry hostNotes i (stepAt (front ++ back) i) line) =
        front.mapIdx fun i line => lineFindings registry hostNotes i (stepAt front i) line := by
    rw [List.mapIdx_eq_mapIdx_iff]
    intro i hi
    rw [stepAt_append front back hi]
  rw [nestingBefore_append front back (Nat.le_refl _)] at hback
  rw [check_eq, List.mapIdx_append, List.flatten_append, hfront, hback, List.append_assoc,
    List.length_append]
  simp only [Nat.add_comm]

/-- From a line without open blocks on, the check finds what it finds at the start of a script, that
many lines further down. -/
theorem checkFrom_add (k : Nat) (lines : List Line) :
    checkFrom registry hostNotes k {} lines =
      (check registry hostNotes lines).map (·.moveLine (k + ·)) := by
  have hcheck : (checkFrom registry hostNotes k {} lines).filterMap some =
      (checkFrom registry hostNotes 0 {} lines).filterMap fun f => some (f.moveLine (k + ·)) :=
    (simulation_of_movedBy (k + ·) registry).filterMap_checkFrom (aligned_add k lines) ⟨.nil, rfl⟩
  rwa [List.filterMap_some, List.filterMap_eq_map'] at hcheck

/-- **The check composes over closed scripts.** If the check of a script finds no unclosed block,
then the check of this script with any other one behind it finds what it finds in the first one, and
then what it finds in the second one, with the line numbers moved behind the first. Whatever else is
found in the first script, such as an `end` too many, does not matter. -/
theorem check_append_of_closed {front : List Line}
    (h : ∀ f ∈ check registry hostNotes front, f.issue.kind ≠ .unclosedBlock) (back : List Line) :
    check registry hostNotes (front ++ back) =
      check registry hostNotes front ++
        (check registry hostNotes back).map (·.moveLine (front.length + ·)) := by
  have hempty := nestingBefore_eq_empty registry hostNotes h
  have hfront : check registry hostNotes front = (front.mapIdx fun i line =>
      lineFindings registry hostNotes i (stepAt front i) line).flatten := by
    rw [check_eq, hempty]
    exact List.append_nil _
  rw [check_append, hempty, checkFrom_add, ← hfront]

end

/-- A script with an `end` too many, loop control outside of loops and a closed loop, and behind it
one with an `end` too many again and a loop that stays open. -/
theorem check_append_of_closed_behind_stray_end :
    (∀ f ∈ check .empty true ["end".toList, "while Foo(a) end".toList, "break".toList],
      f.issue.kind ≠ .unclosedBlock) ∧
    check .empty true (["end".toList, "while Foo(a) end".toList, "break".toList] ++
        ["end".toList, "while b".toList, "  break".toList]) =
      [⟨0, 0, 3, .strayEnd⟩, ⟨1, 6, 9, .hostFunction "Foo"⟩,
        ⟨2, 0, 5, .strayLoopControl .breakLoop⟩, ⟨3, 0, 3, .strayEnd⟩,
        ⟨4, 0, 7, .unclosedBlock .whileLoop⟩] := by
  have hclosed : ∀ f ∈ check .empty true
      ["end".toList, "while Foo(a) end".toList, "break".toList],
      f.issue.kind ≠ .unclosedBlock := by
    have hall : ((check .empty true ["end".toList, "while Foo(a) end".toList, "break".toList]).all
        fun f => f.issue.kind ≠ .unclosedBlock) = true := by decide +kernel
    simpa only [List.all_eq_true, decide_eq_true_eq] using hall
  refine ⟨hclosed, ?_⟩
  rw [check_append_of_closed .empty true hclosed]
  decide +kernel

end Structure

end ScriptLint
