import Mathlib.Data.List.Sort
import ScriptLint.Analysis.Structure
import ScriptLint.Proofs.Usage

/-!
# Columns of a masked line

The passes that search a masked line see its text only; the shifts matter where a column is taken
back to the line. So what they find is what they find in the bare text (`MaskedLine.ofText`), moved
to the raw columns: `Symbols.ofMasked_eq`, `Usage.maskedFindings_eq` and
`Structure.callFindings_eq`. For symbols this needs an argument, because they are listed by raw
column: raw columns grow strictly with the masked columns, so the order is the same
(`rawColumn_le_iff`).

`rawColumn_eq_add` gives the raw column as the masked column and the number of characters removed
before it (`removedBefore`), by recursion along the shifts.
-/

namespace ScriptLint

/-! ## Characters removed before a column -/

/-- The number of characters removed before a column: the amount of the last of the shifts that has
taken effect there, or `removed` if none has. -/
def removedBefore (x removed : Int) : List Shift → Int
  | [] => removed
  | s :: shifts => if s.start ≤ x then removedBefore x s.amount shifts else removed

/-- Of two shifts, the later one takes effect behind the earlier one and counts no less. -/
def Shift.Before (s t : Shift) : Prop := s.start < t.start ∧ s.amount ≤ t.amount

/-- A shift counts what was removed before it. -/
theorem le_amount_of_mem_pieceShifts {column removed : Nat} {ps : List Piece} {s : Shift}
    (h : s ∈ pieceShifts column removed ps) : (removed : Int) ≤ s.amount := by
  induction ps generalizing column removed with
  | nil => cases h
  | cons p ps ih =>
    cases p with
    | plain c => exact ih h
    | literal contents =>
      rcases List.mem_append.1 h with h | h
      · split at h
        · cases h
        · rw [List.mem_singleton.1 h]
          show (removed : Int) ≤ (removed + contents.length : Nat)
          omega
      · have := ih h
        omega

/-- The shifts of pieces come in order. -/
theorem pairwise_pieceShifts (column removed : Nat) (ps : List Piece) :
    (pieceShifts column removed ps).Pairwise Shift.Before := by
  induction ps generalizing column removed with
  | nil => exact .nil
  | cons p ps ih =>
    cases p with
    | plain c => exact ih _ _
    | literal contents =>
      refine List.pairwise_append.2 ⟨?_, ih _ _, fun s hs t ht => ?_⟩
      · split
        · exact .nil
        · exact List.pairwise_singleton _ _
      · split at hs
        · cases hs
        · rw [List.mem_singleton.1 hs]
          exact ⟨(start_of_mem_pieceShifts ht).1, le_amount_of_mem_pieceShifts ht⟩

/-- The shifts of a masked line are those of some pieces. -/
theorem exists_shifts_eq_pieceShifts (order : MaskOrder) (line : Line) :
    ∃ ps, (maskLine order line).shifts = pieceShifts 0 0 ps := by
  cases order with
  | stringsFirst =>
    obtain ⟨ps, hps, rfl⟩ := exists_wellCut line
    exact ⟨ps, shiftsFrom_rawText hps 0 0⟩
  | commentFirst =>
    obtain ⟨ps, hps, hraw⟩ := exists_wellCut (cutComment line)
    refine ⟨ps, ?_⟩
    show shiftsFrom false 0 0 (cutComment line) = _
    rw [← hraw, shiftsFrom_rawText hps]

/-- Shifts that come in order split where they take effect, and the last one before that place tells
how many characters were removed. -/
theorem exists_split_removedBefore {shifts : List Shift} (h : shifts.Pairwise Shift.Before)
    (x removed : Int) :
    ∃ done later, shifts = done ++ later ∧ (∀ s ∈ done, s.start ≤ x) ∧
      (∀ s ∈ later, x < s.start) ∧
      removedBefore x removed shifts = (done.getLast?.map Shift.amount).getD removed := by
  induction shifts generalizing removed with
  | nil => exact ⟨[], [], rfl, nofun, nofun, rfl⟩
  | cons s shifts ih =>
    obtain ⟨hs, hshifts⟩ := List.pairwise_cons.1 h
    by_cases hx : s.start ≤ x
    · obtain ⟨done, later, rfl, hdone, hlater, heq⟩ := ih hshifts s.amount
      refine ⟨s :: done, later, rfl, List.forall_mem_cons.2 ⟨hx, hdone⟩, hlater, ?_⟩
      rw [removedBefore, if_pos hx, heq, List.getLast?_cons]
      cases done.getLast? <;> rfl
    · refine ⟨[], s :: shifts, rfl, nofun, fun t ht => ?_, if_neg hx⟩
      rcases List.mem_cons.1 ht with rfl | ht
      · omega
      · have := (hs t ht).1
        omega

/-- A raw column is the masked column and the characters removed before it. -/
theorem rawColumn_eq_add (order : MaskOrder) (line : Line) (x : Int) :
    (maskLine order line).rawColumn x = x + removedBefore x 0 (maskLine order line).shifts := by
  obtain ⟨ps, hps⟩ := exists_shifts_eq_pieceShifts order line
  obtain ⟨done, later, heq, hdone, hlater, hremoved⟩ :=
    exists_split_removedBefore (pairwise_pieceShifts 0 0 ps) x 0
  rw [MaskedLine.rawColumn_eq (hps.trans heq) hdone hlater, hps, hremoved]

/-- No fewer characters were removed than at the start. -/
theorem le_removedBefore {shifts : List Shift} (h : shifts.Pairwise Shift.Before) {removed : Int}
    (hremoved : ∀ s ∈ shifts, removed ≤ s.amount) (x : Int) :
    removed ≤ removedBefore x removed shifts := by
  induction shifts generalizing removed with
  | nil => exact Int.le_refl _
  | cons s shifts ih =>
    obtain ⟨hs, hshifts⟩ := List.pairwise_cons.1 h
    rw [removedBefore]
    split
    · exact (hremoved s List.mem_cons_self).trans (ih hshifts fun t ht => (hs t ht).2)
    · exact Int.le_refl _

/-- The characters removed before a column do not get fewer to the right. -/
theorem removedBefore_le_removedBefore {shifts : List Shift} (h : shifts.Pairwise Shift.Before)
    {removed : Int} (hremoved : ∀ s ∈ shifts, removed ≤ s.amount) {x y : Int} (hxy : x ≤ y) :
    removedBefore x removed shifts ≤ removedBefore y removed shifts := by
  induction shifts generalizing removed with
  | nil => exact Int.le_refl _
  | cons s shifts ih =>
    obtain ⟨hs, hshifts⟩ := List.pairwise_cons.1 h
    by_cases hx : s.start ≤ x
    · rw [removedBefore, removedBefore, if_pos hx, if_pos (hx.trans hxy)]
      exact ih hshifts fun t ht => (hs t ht).2
    · rw [removedBefore, if_neg hx]
      exact le_removedBefore h hremoved y

/-- Raw columns grow strictly with the masked columns. -/
theorem rawColumn_lt_rawColumn (order : MaskOrder) (line : Line) {x y : Int} (hxy : x < y) :
    (maskLine order line).rawColumn x < (maskLine order line).rawColumn y := by
  obtain ⟨ps, hps⟩ := exists_shifts_eq_pieceShifts order line
  have hle := removedBefore_le_removedBefore (pairwise_pieceShifts 0 0 ps)
    (fun s hs => le_amount_of_mem_pieceShifts hs) (Int.le_of_lt hxy)
  rw [rawColumn_eq_add, rawColumn_eq_add, hps]
  exact Int.add_lt_add_of_lt_of_le hxy hle

/-- Raw columns have the order of the masked columns. -/
theorem rawColumn_le_iff (order : MaskOrder) (line : Line) (x y : Int) :
    (maskLine order line).rawColumn x ≤ (maskLine order line).rawColumn y ↔ x ≤ y := by
  constructor
  · intro hle
    by_contra hlt
    have := rawColumn_lt_rawColumn order line (Int.not_le.1 hlt)
    omega
  · intro hle
    rcases Int.lt_or_eq_of_le hle with hlt | rfl
    · exact Int.le_of_lt (rawColumn_lt_rawColumn order line hlt)
    · exact Int.le_refl _

/-- Different masked columns have different raw columns. -/
theorem rawColumn_inj (order : MaskOrder) (line : Line) {x y : Int} :
    (maskLine order line).rawColumn x = (maskLine order line).rawColumn y ↔ x = y := by
  have hle := rawColumn_le_iff order line x y
  have hge := rawColumn_le_iff order line y x
  omega

/-- Shifts that take effect behind a column do not matter there. -/
theorem removedBefore_append {x : Int} (shifts : List Shift) {later : List Shift}
    (h : ∀ s ∈ later, x < s.start) (removed : Int) :
    removedBefore x removed (shifts ++ later) = removedBefore x removed shifts := by
  induction shifts generalizing removed with
  | nil =>
    cases later with
    | nil => rfl
    | cons s later => exact if_neg (Int.not_le.2 (h s List.mem_cons_self))
  | cons s shifts ih => rw [List.cons_append, removedBefore, removedBefore, ih]

/-! ## Results without their columns -/

/-- A symbol without its column. -/
def Symbol.eraseColumn (s : Symbol) : Symbol := { s with character := 0 }

/-- A finding without its columns. -/
def Finding.eraseColumns (f : Finding) : Finding := { f with start := 0, stop := 0 }

/-- A finding without the column where it ends. -/
def Finding.eraseStop (f : Finding) : Finding := { f with stop := 0 }

/-- A diagnostic without its columns. -/
def Diagnostic.eraseColumns (d : Diagnostic) : Diagnostic :=
  { d with range := ⟨⟨d.range.start.line, 0⟩, ⟨d.range.stop.line, 0⟩⟩ }

/-! ## Results in a bare text -/

/-- A text as a masked line from which nothing was removed. -/
def MaskedLine.ofText (text : List Char) : MaskedLine := ⟨text, text, []⟩

/-- A line without literals keeps its columns. -/
@[simp] theorem MaskedLine.rawColumn_ofText (text : List Char) (x : Int) :
    (MaskedLine.ofText text).rawColumn x = x := rfl

/-- A symbol at another column. -/
def Symbol.relocate (column : Int → Int) (s : Symbol) : Symbol :=
  { s with character := column s.character }

/-- A finding as wide as before that starts at another column. -/
def Finding.relocate (column : Int → Int) (f : Finding) : Finding :=
  { f with start := column f.start, stop := column f.start + (f.stop - f.start) }

/-- A finding keeps its width when it is moved. -/
theorem Finding.relocate_mk (column : Int → Int) (i : Nat) (start width : Int) (issue : Issue) :
    Finding.relocate column ⟨i, start, start + width, issue⟩ =
      ⟨i, column start, column start + width, issue⟩ := by
  have hwidth : start + width - start = width := by omega
  rw [Finding.relocate, hwidth]

namespace Symbols

/-- A write at another column. -/
def Write.relocate (column : Int → Int) (w : Write) : Write := { w with column := column w.column }

/-- The declarations of a masked line are those of its text, moved. -/
theorem declarations_eq (i : Nat) (m : MaskedLine) :
    declarations i m = (declarations i (.ofText m.text)).map (·.relocate m.rawColumn) := by
  rw [declarations, declarations, List.map_map]
  rfl

/-- The iterators of a masked line are those of its text, moved. -/
theorem iterators_eq (i : Nat) (m : MaskedLine) :
    iterators i m = (iterators i (.ofText m.text)).map (·.relocate m.rawColumn) := by
  rw [iterators, iterators, List.map_map]
  rfl

/-- The writes of a masked line are those of its text, moved. -/
theorem writes_eq (m : MaskedLine) :
    writes m = (writes (.ofText m.text)).map (·.relocate m.rawColumn) := by
  rw [writes, writes, List.map_map]
  rfl

/-- Which writes are the first ones does not depend on their columns. -/
theorem firstWrites_map_relocate (column : Int → Int) (seen : List String) (ws : List Write) :
    firstWrites seen (ws.map (·.relocate column)) =
      (firstWrites seen ws).map (·.relocate column) := by
  induction ws generalizing seen with
  | nil => rfl
  | cons w ws ih =>
    rw [List.map_cons, firstWrites, firstWrites]
    show (if seen.contains w.path then _ else _ :: firstWrites (w.path :: seen) _) = _
    split
    · exact ih seen
    · rw [List.map_cons, ih]

/-- Symbols are listed by insertion sort. -/
theorem byColumn_eq_insertionSort (ss : List Symbol) :
    byColumn ss = ss.insertionSort fun s t => s.character ≤ t.character := by
  have hinsert (s : Symbol) (ss : List Symbol) :
      insertByColumn s ss = ss.orderedInsert (fun s t => s.character ≤ t.character) s := by
    induction ss with
    | nil => rfl
    | cons t ts ih => rw [insertByColumn, ih, List.orderedInsert_cons]
  induction ss with
  | nil => rfl
  | cons s ss ih => rw [byColumn, ih, hinsert, List.insertionSort_cons]

/-- A change to symbols that keeps the order of their columns keeps the order of the symbols. -/
theorem byColumn_map {f : Symbol → Symbol}
    (h : ∀ s t, s.character ≤ t.character ↔ (f s).character ≤ (f t).character)
    (ss : List Symbol) : byColumn (ss.map f) = (byColumn ss).map f := by
  rw [byColumn_eq_insertionSort, byColumn_eq_insertionSort]
  exact (List.map_insertionSort _ _ f ss fun s _ t _ => h s t).symm

/-- The symbols of a masked line are those of its text, at their raw columns. -/
theorem ofMasked_eq {m : MaskedLine} (h : ∀ x y, m.rawColumn x ≤ m.rawColumn y ↔ x ≤ y) (i : Nat)
    (seen : List String) :
    ofMasked i seen m = (ofMasked i seen (.ofText m.text)).map (·.relocate m.rawColumn) := by
  have hwrites : (firstWrites seen (writes m)).map (Write.toSymbol i) =
      ((firstWrites seen (writes (.ofText m.text))).map (Write.toSymbol i)).map
        (·.relocate m.rawColumn) := by
    rw [writes_eq, firstWrites_map_relocate, List.map_map, List.map_map]
    rfl
  rw [ofMasked, declarations_eq, iterators_eq, hwrites, ← List.map_append, ← List.map_append,
    byColumn_map fun s t => (h s.character t.character).symm]
  rfl

/-- The paths that a masked line writes to are those of its text. -/
theorem map_path_writes (m : MaskedLine) :
    (writes m).map (·.path) =
      (Rules.propertyWrite.scan m.text).map fun found => String.ofList found.value :=
  List.map_map

end Symbols

namespace Usage

/-- The undefined names of a masked line are those of its text, at their raw columns. -/
theorem maskedFindings_eq (registry : Registry) (declared : List String) (i : Nat)
    (m : MaskedLine) :
    maskedFindings registry declared i m =
      (maskedFindings registry declared i (.ofText m.text)).map (·.relocate m.rawColumn) := by
  rw [maskedFindings, maskedFindings, List.map_filterMap]
  refine List.filterMap_congr fun mention _ => ?_
  dsimp only
  split
  · rfl
  · rw [Option.map_some, Finding.relocate_mk, MaskedLine.rawColumn_ofText]

end Usage

namespace Structure

/-- The calls of a masked line are those of its text, at their raw columns. -/
theorem callFindings_eq (registry : Registry) (i : Nat) (m : MaskedLine) :
    callFindings registry i m =
      (callFindings registry i (.ofText m.text)).map (·.relocate m.rawColumn) := by
  rw [callFindings, callFindings, List.map_filterMap]
  refine List.filterMap_congr fun call _ => ?_
  dsimp only
  split
  · rw [Option.map_some, Finding.relocate_mk, MaskedLine.rawColumn_ofText]
  · rfl

end Structure

end ScriptLint
