import Mathlib.Data.List.Basic
import ScriptLint.Finding
import ScriptLint.Source.Line

/-!
# Findings, line by line

Both analyses list their findings line by line: those of line `i` are given by a function of `i` and
the line, and the list of all is `(lines.mapIdx g).flatten`. What is in such a list, what of it is
on one line and how it is ordered follows from the findings of the single lines.

The findings on a line are told apart by the kind of their issue (`IssueKind`).
-/

namespace ScriptLint

/-! ## Kinds of issues -/

/-- What kind of issue there is. -/
inductive IssueKind where
  | unclosedString
  | strayEnd
  | strayLoopControl
  | unknownType
  | hostFunction
  | unclosedBlock
  | undefinedVariable
deriving Repr, DecidableEq

/-- The kind of an issue. -/
def Issue.kind : Issue → IssueKind
  | .unclosedString => .unclosedString
  | .strayEnd => .strayEnd
  | .strayLoopControl _ => .strayLoopControl
  | .unknownType _ => .unknownType
  | .hostFunction _ => .hostFunction
  | .unclosedBlock _ => .unclosedBlock
  | .undefinedVariable _ => .undefinedVariable

/-- The findings of a rule that reports one kind of issue, among them those of a given kind. -/
theorem filter_kind_eq {found : List Finding} {kind : IssueKind}
    (h : ∀ f ∈ found, f.issue.kind = kind) (other : IssueKind) :
    found.filter (·.issue.kind = other) = if kind = other then found else [] := by
  split
  · rename_i heq
    exact List.filter_eq_self.2 fun f hf => by simpa [h f hf] using heq
  · rename_i hne
    exact List.filter_eq_nil_iff.2 fun f hf => by simpa [h f hf] using hne

/-! ## Lists by line -/

/-- Findings listed line by line are those of some line. -/
theorem mem_flatten_mapIdx {g : Nat → Line → List Finding} {lines : List Line} {f : Finding} :
    f ∈ (lines.mapIdx g).flatten ↔ ∃ i line, lines[i]? = some line ∧ f ∈ g i line := by
  rw [List.mem_flatten]
  constructor
  · rintro ⟨found, hfound, hf⟩
    obtain ⟨i, hi, rfl⟩ := List.mem_mapIdx.1 hfound
    exact ⟨i, lines[i], List.getElem?_eq_getElem hi, hf⟩
  · rintro ⟨i, line, hline, hf⟩
    obtain ⟨hi, rfl⟩ := List.getElem?_eq_some_iff.1 hline
    exact ⟨g i lines[i], List.mem_mapIdx.2 ⟨i, hi, rfl⟩, hf⟩

/-- The findings of line `i` among those of all lines that are listed line by line. -/
theorem filter_flatten_mapIdx {g : Nat → Line → List Finding} {k : Nat}
    (hg : ∀ j line, ∀ f ∈ g j line, f.line = k + j) (hnil : ∀ j, g j [] = []) (i : Nat)
    (p : Finding → Bool) (lines : List Line) :
    (lines.mapIdx g).flatten.filter (fun f => f.line == k + i && p f) =
      (g i (lines.getD i [])).filter p := by
  induction lines generalizing g k i with
  | nil => simp [hnil]
  | cons line lines ih =>
    have htail (j : Nat) (line : Line) : ∀ f ∈ g (j + 1) line, f.line = k + 1 + j := by
      intro f hf
      rw [hg _ _ f hf]
      omega
    rw [List.mapIdx_cons, List.flatten_cons, List.filter_append]
    cases i with
    | zero =>
      have hhead : (g 0 line).filter (fun f => f.line == k + 0 && p f) = (g 0 line).filter p := by
        refine List.filter_congr fun f hf => ?_
        rw [hg _ _ f hf, beq_self_eq_true, Bool.true_and]
      have hlater : (lines.mapIdx fun j => g (j + 1)).flatten.filter
          (fun f => f.line == k + 0 && p f) = [] := by
        refine List.filter_eq_nil_iff.2 fun f hf => ?_
        obtain ⟨j, line', -, hf⟩ := mem_flatten_mapIdx.1 hf
        rw [htail j line' f hf, Bool.and_eq_true, beq_iff_eq]
        omega
      rw [hhead, hlater, List.append_nil]
      rfl
    | succ i =>
      have hhead : (g 0 line).filter (fun f => f.line == k + (i + 1) && p f) = [] := by
        refine List.filter_eq_nil_iff.2 fun f hf => ?_
        rw [hg _ _ f hf]
        simp
      rw [hhead, List.nil_append, show k + (i + 1) = k + 1 + i by omega]
      exact ih htail (fun j => hnil (j + 1)) i

/-- Findings come in order: by line, and on a line by their first column. -/
def Finding.Before (f g : Finding) : Prop := f.line < g.line ∨ f.line = g.line ∧ f.start < g.start

/-- Findings come in order by line, and on a line as `R` says. -/
def Finding.ByLine (R : Finding → Finding → Prop) (f g : Finding) : Prop :=
  f.line < g.line ∨ f.line = g.line ∧ R f g

/-- Findings listed line by line come in order if those of each line do. -/
theorem pairwise_flatten_mapIdx {R : Finding → Finding → Prop} {g : Nat → Line → List Finding}
    {k : Nat} (hg : ∀ j line, ∀ f ∈ g j line, f.line = k + j)
    (hsorted : ∀ j line, (g j line).Pairwise R) (lines : List Line) :
    (lines.mapIdx g).flatten.Pairwise (Finding.ByLine R) := by
  induction lines generalizing g k with
  | nil => exact .nil
  | cons line lines ih =>
    have htail (j : Nat) (line : Line) : ∀ f ∈ g (j + 1) line, f.line = k + 1 + j := by
      intro f hf
      rw [hg _ _ f hf]
      omega
    rw [List.mapIdx_cons, List.flatten_cons, List.pairwise_append]
    refine ⟨(hsorted 0 line).imp_of_mem ?_, ih htail fun j => hsorted (j + 1), ?_⟩
    · intro f f' hf hf' hlt
      exact .inr ⟨(hg _ _ f hf).trans (hg _ _ f' hf').symm, hlt⟩
    · intro f hf f' hf'
      obtain ⟨j, line', -, hf'⟩ := mem_flatten_mapIdx.1 hf'
      refine .inl ?_
      rw [hg _ _ f hf, htail j line' f' hf']
      omega

end ScriptLint
