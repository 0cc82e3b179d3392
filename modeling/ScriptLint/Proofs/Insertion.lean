import ScriptLint.Analysis.Session
import ScriptLint.Proofs.Alignment
import ScriptLint.Proofs.Columns

/-!
# Skippable lines are inert

A line that is blank or a comment takes no part in any pass, so inserting one only renumbers the
lines behind it. The passes carry line numbers in their state (the open blocks know where they were
opened) and in their results; `MovedBy` relates a line to itself under another number, and both move
along with it.
-/

namespace ScriptLint

/-- A finding on another line. -/
def Finding.moveLine (move : Nat → Nat) (f : Finding) : Finding := { f with line := move f.line }

/-- A symbol on another line. -/
def Symbol.moveLine (move : Nat → Nat) (s : Symbol) : Symbol := { s with line := move s.line }

/-- The same line under another number. -/
def MovedBy (move : Nat → Nat) (i i' : Nat) (line line' : Line) : Prop := i' = move i ∧ line' = line

/-- A script is aligned with itself, any number of lines further down. -/
theorem aligned_add (k : Nat) (lines : List Line) : Aligned (MovedBy (k + ·)) 0 k lines lines := by
  refine .same ?_
  intro j _ line
  exact ⟨by rw [Nat.zero_add], rfl⟩

section
variable (move : Nat → Nat)

namespace Structure

/-- A line under another number has the same findings there. -/
theorem lookAlike_of_movedBy (registry : Registry) {i i' : Nat} {line line' : Line}
    (h : MovedBy move i i' line line') :
    LookAlike registry (fun f => some (f.moveLine move)) some i i' line line' := by
  obtain ⟨rfl, rfl⟩ := h
  refine ⟨rfl, rfl, rfl, rfl, rfl, fun _ => ?_, fun _ => rfl, fun _ _ => rfl, ?_, ?_⟩
  · unfold quoteFindings
    split <;> rfl
  · unfold typeFindings
    split
    · rfl
    · dsimp only
      split <;> rfl
  · rw [callFindings, callFindings, List.filterMap_filterMap, List.filterMap_filterMap]
    refine List.filterMap_congr fun call _ => ?_
    dsimp only
    split <;> rfl

/-- The check of a script moves with the numbers of its lines. -/
theorem simulation_of_movedBy (registry : Registry) :
    Simulation registry (MovedBy move) (fun b b' => b' = { b with line := move b.line })
      (fun f => some (f.moveLine move)) some where
  lookAlike _ _ _ _ h := lookAlike_of_movedBy move registry h
  opened := by
    rintro i i' line line' ⟨rfl, rfl⟩ kind
    rfl
  kind_eq := by
    rintro b b' rfl
    rfl
  unclosed := by
    rintro b b' rfl
    rfl

/-- The checks by lines find the same in a script with moved lines, on those lines. -/
theorem check_of_aligned {registry : Registry} {hostNotes : Bool} {lines lines' : List Line}
    (h : Aligned (MovedBy move) 0 0 lines lines') :
    check registry hostNotes lines' = (check registry hostNotes lines).map (·.moveLine move) := by
  have hcheck := (simulation_of_movedBy move registry).filterMap_check hostNotes h
  rwa [List.filterMap_some, List.filterMap_eq_map'] at hcheck

end Structure

namespace Symbols

/-- A masked line under another number has the same symbols there. -/
theorem ofMasked_moveLine (i : Nat) (seen : List String) (m : MaskedLine) :
    ofMasked (move i) seen m = (ofMasked i seen m).map (·.moveLine move) := by
  have hdeclarations : declarations (move i) m = (declarations i m).map (·.moveLine move) := by
    rw [declarations, declarations, List.map_map]
    rfl
  have hiterators : iterators (move i) m = (iterators i m).map (·.moveLine move) := by
    rw [iterators, iterators, List.map_map]
    rfl
  have hwrites : (firstWrites seen (writes m)).map (Write.toSymbol (move i)) =
      ((firstWrites seen (writes m)).map (Write.toSymbol i)).map (·.moveLine move) := by
    rw [List.map_map]
    rfl
  rw [ofMasked, hdeclarations, hiterators, hwrites, ← List.map_append, ← List.map_append,
    byColumn_map (f := Symbol.moveLine move) fun s t => Iff.rfl]
  rfl

/-- The symbols of a script move with the numbers of its lines. -/
theorem extractFrom_of_aligned {i i' : Nat} {lines lines' : List Line}
    (h : Aligned (MovedBy move) i i' lines lines') (seen : List String) :
    extractFrom i' seen lines' = (extractFrom i seen lines).map (·.moveLine move) := by
  rw [← List.map_id (extractFrom i' seen lines')]
  refine map_extractFrom ?_ ?_ h seen
  · rintro i i' line line' ⟨rfl, rfl⟩
    rfl
  · rintro i i' line line' ⟨rfl, rfl⟩ seen
    rw [List.map_id, ofLine, ofLine]
    cases masked? line' with
    | none => rfl
    | some masked => exact ofMasked_moveLine move i seen masked

/-- A script with moved lines has the same symbols, on those lines. -/
theorem extract_of_aligned {lines lines' : List Line}
    (h : Aligned (MovedBy move) 0 0 lines lines') :
    extract lines' = (extract lines).map (·.moveLine move) :=
  extractFrom_of_aligned move h []

end Symbols

namespace Usage

/-- A line under another number has the same undefined names there. -/
theorem lineFindings_moveLine (registry : Registry) (declared : List String) (i : Nat)
    (line : Line) :
    lineFindings registry declared (move i) line =
      (lineFindings registry declared i line).map (·.moveLine move) := by
  rw [lineFindings, lineFindings]
  cases Symbols.masked? line with
  | none => rfl
  | some masked =>
    show maskedFindings _ _ _ masked = (maskedFindings _ _ _ masked).map _
    rw [maskedFindings, maskedFindings, List.map_filterMap]
    refine List.filterMap_congr fun mention _ => ?_
    dsimp only
    split <;> rfl

/-- A script with moved lines uses the same undefined names, on those lines. -/
theorem validate_of_aligned {registry : Registry} (symbols : List Symbol)
    {lines lines' : List Line} (h : Aligned (MovedBy move) 0 0 lines lines') :
    validate registry symbols lines' = (validate registry symbols lines).map (·.moveLine move) := by
  rw [← List.map_id (validate registry symbols lines')]
  refine map_validateFrom ?_ h
  rintro i i' line line' ⟨rfl, rfl⟩
  rw [List.map_id]
  exact lineFindings_moveLine move registry _ i line'

end Usage

end

/-! ## Inserted lines -/

/-- The number of a line behind the insertion of a line at `k`. -/
def behindInsert (k line : Nat) : Nat := if k ≤ line then line + 1 else line

/-- A place behind the insertion of a line at `k`. -/
def Position.behindInsert (k : Nat) (p : Position) : Position :=
  if k ≤ p.line then { p with line := p.line + 1 } else p

/-- A diagnostic behind the insertion of a line at `k`. -/
def Diagnostic.behindInsert (k : Nat) (d : Diagnostic) : Diagnostic :=
  { d with range := ⟨d.range.start.behindInsert k, d.range.stop.behindInsert k⟩ }

/-- A finding behind an inserted line is reported one line below. -/
theorem toDiagnostic_moveLine (k : Nat) (f : Finding) :
    (f.moveLine (behindInsert k)).toDiagnostic = f.toDiagnostic.behindInsert k := by
  have hplace (character : Int) : Position.behindInsert k ⟨f.line, character⟩ =
      ⟨behindInsert k f.line, character⟩ := by
    unfold Position.behindInsert behindInsert
    by_cases h : k ≤ f.line
    · rw [if_pos h, if_pos (Int.ofNat_le.2 h)]
      rfl
    · rw [if_neg h, if_neg (mt Int.ofNat_le.1 h)]
  show Diagnostic.mk _ ⟨_, _⟩ _ _ = Diagnostic.mk _ ⟨_, _⟩ _ _
  rw [show f.toDiagnostic.range.start = ⟨f.line, f.start⟩ from rfl,
    show f.toDiagnostic.range.stop = ⟨f.line, f.stop⟩ from rfl, hplace, hplace]
  rfl

/-- A script is aligned with itself behind the insertion of a skippable line. -/
theorem aligned_insert (lines : List Line) (k : Nat) {b : Line} (hb : isSkippable b = true) :
    Aligned (MovedBy (behindInsert k)) 0 0 lines (lines.take k ++ b :: lines.drop k) := by
  have hfront : Aligned (MovedBy (behindInsert k)) 0 0 (lines.take k) (lines.take k) := by
    refine .same fun j hj line => ⟨?_, rfl⟩
    rw [List.length_take] at hj
    rw [behindInsert, if_neg (by omega)]
  rcases Nat.lt_or_ge k lines.length with hk | hk
  · have hlen : (lines.take k).length = k := by rw [List.length_take]; omega
    have hback : Aligned (MovedBy (behindInsert k)) k k (lines.drop k) (b :: lines.drop k) := by
      refine .skip hb (.same fun j _ line => ⟨?_, rfl⟩)
      rw [behindInsert, if_pos (Nat.le_add_right k j), Nat.add_right_comm]
    have h := hfront.append (by rwa [hlen, Nat.zero_add])
    rwa [List.take_append_drop] at h
  · -- the line is inserted at the end, where no number is moved
    rw [List.take_of_length_le hk] at hfront ⊢
    have h := hfront.append (.skip hb .nil)
    rwa [List.append_nil, ← List.drop_eq_nil_of_le hk] at h

/-- **Skippable lines are inert.** Inserting a blank line or a comment at line `k` changes the
results of the three passes, and so of the whole analysis, only by one more in the number of every
line from `k` on. -/
theorem skippable_line_inert (registry : Registry) (options : Options) (lines : List Line) (k : Nat)
    {b : Line} (hb : isSkippable b = true) :
    (∀ hostNotes, Structure.check registry hostNotes (lines.take k ++ b :: lines.drop k) =
      (Structure.check registry hostNotes lines).map (·.moveLine (behindInsert k))) ∧
    Symbols.extract (lines.take k ++ b :: lines.drop k) =
      (Symbols.extract lines).map (·.moveLine (behindInsert k)) ∧
    (∀ symbols, Usage.validate registry symbols (lines.take k ++ b :: lines.drop k) =
      (Usage.validate registry symbols lines).map (·.moveLine (behindInsert k))) ∧
    analyze registry options (lines.take k ++ b :: lines.drop k) =
      (analyze registry options lines).map (·.behindInsert k) := by
  have haligned := aligned_insert lines k hb
  have hsymbols := Symbols.extract_of_aligned (behindInsert k) haligned
  refine ⟨fun hostNotes => Structure.check_of_aligned _ haligned, hsymbols,
    fun symbols => Usage.validate_of_aligned _ symbols haligned, ?_⟩
  have hnames : (Symbols.extract (lines.take k ++ b :: lines.drop k)).map (·.name) =
      (Symbols.extract lines).map (·.name) := by
    rw [hsymbols, List.map_map]
    rfl
  rw [analyze, analyze, findings, findings, Structure.check_of_aligned _ haligned,
    Usage.validate_eq_of_map_name_eq registry hnames, Usage.validate_of_aligned _ _ haligned,
    ← List.map_append, List.map_map, List.map_map]
  exact List.map_congr_left fun f _ => toDiagnostic_moveLine k f

/-- A comment that holds an `end` and a quote, inserted into an open block, moves the undefined name
behind it and leaves what is found on the line before it. -/
theorem skippable_line_inert_in_block :
    isSkippable "  # end \"".toList = true ∧
    analyze .empty ⟨false⟩ ["if a".toList, "  # end \"".toList, "b".toList] =
      (analyze .empty ⟨false⟩ ["if a".toList, "b".toList]).map (·.behindInsert 1) :=
  ⟨by decide +kernel, (skippable_line_inert .empty ⟨false⟩ ["if a".toList, "b".toList] 1
    (by decide +kernel)).2.2.2⟩

end ScriptLint
