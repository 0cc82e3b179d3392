/-!
# Sets of code points

A character property is given by the code points that have it, as closed intervals in ascending
order. The tables of this library are all written this way. Two sets with no interval in common
exclude each other (`contains_eq_false_of_disjoint`), which a table decides by evaluation.
-/

namespace ScriptLint

/-- A set of code points, as closed intervals `(first, last)` in ascending order. -/
abbrev CodeRanges := List (Nat × Nat)

namespace CodeRanges

/-- Whether a character lies in one of the intervals. -/
def contains (ranges : CodeRanges) (c : Char) : Bool :=
  ranges.any fun r => r.1 ≤ c.toNat && c.toNat ≤ r.2

/-- A character is in one of some ranges. -/
theorem contains_iff {ranges : CodeRanges} {c : Char} :
    ranges.contains c = true ↔ ∃ r ∈ ranges, r.1 ≤ c.toNat ∧ c.toNat ≤ r.2 := by
  simp [contains]

/-- Whether no code point lies in both sets. -/
def disjoint (a b : CodeRanges) : Bool :=
  a.all fun r => b.all fun s => r.2 < s.1 || s.2 < r.1

/-- No character is in two disjoint sets of ranges. -/
theorem contains_eq_false_of_disjoint {a b : CodeRanges} {c : Char}
    (h : a.disjoint b = true) (ha : a.contains c = true) : b.contains c = false := by
  obtain ⟨r, hr, hlo, hhi⟩ := contains_iff.1 ha
  rw [Bool.eq_false_iff]
  intro hb
  obtain ⟨s, hs, hlo', hhi'⟩ := contains_iff.1 hb
  have hrs : r.2 < s.1 ∨ s.2 < r.1 := by
    simp only [disjoint, List.all_eq_true, Bool.or_eq_true, decide_eq_true_eq] at h
    exact h r hr s hs
  omega

end CodeRanges

end ScriptLint
