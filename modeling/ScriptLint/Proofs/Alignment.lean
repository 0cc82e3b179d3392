import ScriptLint.Analysis.Usage
import ScriptLint.Proofs.Nesting

/-!
# Two scripts side by side

A fact about two runs of the analysis compares scripts whose lines correspond. `Aligned R` says so:
lines at corresponding places are related by `R`, and the second script may have skippable lines of
its own between them. For each of the three passes there is one lemma that carries a relation
between lines over to the results:

* `Structure.Simulation.filterMap_checkFrom`: related lines must have the same events and, through
  two views of a finding, the same findings; open blocks correspond along the run
  (`Nesting.Related`);
* `Symbols.map_extractFrom`: related lines must write to the same paths and have the same symbols;
* `Usage.map_validateFrom`: related lines must have the same uses of undefined names.

What a view forgets or changes (columns, line numbers, the findings of one line) is up to the fact
in question.
-/

namespace ScriptLint

/-! ## Aligned scripts -/

/-- Two scripts from lines `i` and `i'` on: lines at corresponding places are related, and all other
lines of the second script are skippable. -/
inductive Aligned (R : Nat → Nat → Line → Line → Prop) :
    Nat → Nat → List Line → List Line → Prop where
  | nil {i i' : Nat} : Aligned R i i' [] []
  | cons {i i' : Nat} {line line' : Line} {rest rest' : List Line} (hline : R i i' line line')
      (hrest : Aligned R (i + 1) (i' + 1) rest rest') :
      Aligned R i i' (line :: rest) (line' :: rest')
  | skip {i i' : Nat} {line' : Line} {rest rest' : List Line} (hskip : isSkippable line' = true)
      (hrest : Aligned R i (i' + 1) rest rest') : Aligned R i i' rest (line' :: rest')

section
variable {R : Nat → Nat → Line → Line → Prop}

/-- A script is aligned with itself if its lines are related to themselves. -/
theorem Aligned.same {i i' : Nat} {lines : List Line}
    (h : ∀ j < lines.length, ∀ line, R (i + j) (i' + j) line line) :
    Aligned R i i' lines lines := by
  induction lines generalizing i i' with
  | nil => exact .nil
  | cons line rest ih =>
    refine .cons (h 0 (Nat.zero_lt_succ _) line) (ih fun j hj line => ?_)
    have hnext := h (j + 1) (Nat.succ_lt_succ hj) line
    rwa [← Nat.add_assoc, ← Nat.add_assoc, Nat.add_right_comm i, Nat.add_right_comm i'] at hnext

/-- Aligned scripts stay aligned with aligned scripts behind them. -/
theorem Aligned.append {i i' : Nat} {front front' back back' : List Line}
    (hfront : Aligned R i i' front front')
    (hback : Aligned R (i + front.length) (i' + front'.length) back back') :
    Aligned R i i' (front ++ back) (front' ++ back') := by
  induction hfront with
  | nil => exact hback
  | cons hline _ ih =>
    refine .cons hline (ih ?_)
    rwa [Nat.add_right_comm, Nat.add_right_comm _ 1]
  | skip hskip _ ih =>
    refine .skip hskip (ih ?_)
    rwa [Nat.add_right_comm _ 1]

/-- Scripts of related lines are aligned line by line. -/
theorem Aligned.of_forall₂ {Q : Line → Line → Prop} {lines lines' : List Line}
    (h : List.Forall₂ Q lines lines') (i : Nat) :
    Aligned (fun i i' line line' => i' = i ∧ Q line line') i i lines lines' := by
  induction h generalizing i with
  | nil => exact .nil
  | cons hline _ ih => exact .cons ⟨rfl, hline⟩ (ih (i + 1))

end

/-! ## The check -/

namespace Nesting

/-- Two nestings correspond: so do their open blocks, and the loop depth is the same. -/
structure Related (B : OpenBlock → OpenBlock → Prop) (n n' : Nesting) : Prop where
  blocks : List.Forall₂ B n.blocks n'.blocks
  loopDepth : n'.loopDepth = n.loopDepth

section
variable {B : OpenBlock → OpenBlock → Prop} {n n' : Nesting}

/-- Blocks of the same kind may be opened on both sides. -/
theorem Related.push (h : Related B n n') {b b' : OpenBlock} (hb : B b b')
    (hkind : b'.kind = b.kind) : Related B (n.push b) (n'.push b') := by
  refine ⟨.cons hb h.blocks, ?_⟩
  show n'.loopDepth + loopWeight b'.kind = n.loopDepth + loopWeight b.kind
  rw [h.loopDepth, hkind]

/-- Blocks may be closed on both sides. -/
theorem Related.pop (h : Related B n n') (hB : ∀ b b', B b b' → b'.kind = b.kind) :
    Related B n.pop n'.pop := by
  obtain ⟨blocks, depth⟩ := n
  obtain ⟨blocks', depth'⟩ := n'
  obtain ⟨hblocks, hdepth⟩ := h
  cases hblocks with
  | nil => exact ⟨.nil, hdepth⟩
  | cons hb hrest =>
    refine ⟨hrest, ?_⟩
    show depth' - loopWeight _ = depth - loopWeight _
    rw [show depth' = depth from hdepth, hB _ _ hb]

/-- Corresponding nestings stay so over lines with the same events, and both have an `end` too many
or neither has. -/
theorem Related.step (h : Related B n n') (hB : ∀ b b', B b b' → b'.kind = b.kind)
    {i i' width width' : Nat} (hopen : ∀ kind, B ⟨kind, i, width⟩ ⟨kind, i', width'⟩)
    (events : BlockEvents) :
    Related B (n.step i width events).after (n'.step i' width' events).after ∧
      (n'.step i' width' events).strayEnd = (n.step i width events).strayEnd := by
  have hopened : Related B (n.openLine i width events) (n'.openLine i' width' events) := by
    unfold openLine
    cases events.opens with
    | none => exact h
    | some kind => exact h.push (hopen kind) rfl
  unfold Nesting.step
  cases events.closes with
  | false => exact ⟨hopened, rfl⟩
  | true =>
    refine ⟨hopened.pop hB, ?_⟩
    have hlen := hopened.blocks.length_eq
    show (n'.openLine i' width' events).blocks.isEmpty = (n.openLine i width events).blocks.isEmpty
    rw [Bool.eq_iff_iff, List.isEmpty_iff_length_eq_zero, List.isEmpty_iff_length_eq_zero, hlen]

end

/-- A skippable line leaves the nesting. -/
theorem stepLine_of_skippable (n : Nesting) (i : Nat) {line : Line} (h : isSkippable line = true) :
    n.stepLine i line = ⟨n, false⟩ := by
  unfold stepLine BlockEvents.ofLine
  rw [if_pos h]
  rfl

end Nesting

namespace Structure

section
variable {β : Type} {registry : Registry} {hostNotes : Bool}

/-- Two lines look alike to the rules of the check: they have the same events, and what one view
shows of the findings of the first is what another view shows of those of the second. -/
structure LookAlike (registry : Registry) (view view' : Finding → Option β) (i i' : Nat)
    (line line' : Line) : Prop where
  skippable : isSkippable line' = isSkippable line
  opens : openedBlock? (codeText line') = openedBlock? (codeText line)
  closes : Rules.blockClose.occurs (codeText line') = Rules.blockClose.occurs (codeText line)
  controls : Rules.loopControl.occurs (codeText line') = Rules.loopControl.occurs (codeText line)
  breaks : Rules.loopBreak.occurs (codeText line') = Rules.loopBreak.occurs (codeText line)
  quotes : isSkippable line = false →
    (quoteFindings i' line').filterMap view' = (quoteFindings i line).filterMap view
  strayEnd : isSkippable line = false →
    view' (contentFinding i' line' .strayEnd) = view (contentFinding i line .strayEnd)
  strayControl : isSkippable line = false → ∀ control,
    view' (contentFinding i' line' (.strayLoopControl control)) =
      view (contentFinding i line (.strayLoopControl control))
  types : (typeFindings i' line').filterMap view' = (typeFindings i line).filterMap view
  calls : (callFindings registry i' (maskLine .commentFirst line')).filterMap view' =
    (callFindings registry i (maskLine .commentFirst line)).filterMap view

variable {view view' : Finding → Option β} {i i' : Nat} {line line' : Line}

/-- Lines that look alike open and close the same blocks. -/
theorem LookAlike.ofLine_eq (h : LookAlike registry view view' i i' line line') :
    BlockEvents.ofLine line' = BlockEvents.ofLine line := by
  unfold BlockEvents.ofLine
  rw [h.skippable]
  show (if _ then _ else BlockEvents.mk (openedBlock? (codeText line'))
    (Rules.blockClose.occurs (codeText line'))) = _
  rw [h.opens, h.closes]
  rfl

/-- A stray `end` is found on both of two lines that look alike, or on neither. -/
theorem LookAlike.endFindings_eq (h : LookAlike registry view view' i i' line line')
    (hline : isSkippable line = false) (stray : Bool) :
    (endFindings i' line' stray).filterMap view' = (endFindings i line stray).filterMap view := by
  unfold endFindings
  cases stray with
  | false => rfl
  | true => simp only [if_true, List.filterMap_cons, List.filterMap_nil, h.strayEnd hline]

/-- Stray loop control is found on both of two lines that look alike, or on neither. -/
theorem LookAlike.loopFindings_eq (h : LookAlike registry view view' i i' line line')
    (hline : isSkippable line = false) (depth : Int) :
    (loopFindings i' line' (codeText line') depth).filterMap view' =
      (loopFindings i line (codeText line) depth).filterMap view := by
  unfold loopFindings
  rw [h.controls, h.breaks]
  split
  · rfl
  · simp only [List.filterMap_cons, List.filterMap_nil, h.strayControl hline]

/-- Lines that look alike have the same findings, seen through the two views, if an `end` is one too
many in both or in neither and as many loops are open. -/
theorem LookAlike.lineFindings_eq (h : LookAlike registry view view' i i' line line')
    {step step' : Nesting.Step} (hstray : step'.strayEnd = step.strayEnd)
    (hdepth : step'.after.loopDepth = step.after.loopDepth) :
    (lineFindings registry hostNotes i' step' line').filterMap view' =
      (lineFindings registry hostNotes i step line).filterMap view := by
  unfold lineFindings
  cases hline : isSkippable line with
  | true => rw [h.skippable, hline]; rfl
  | false =>
    have hloops := h.loopFindings_eq hline step.after.loopDepth
    simp only [codeText] at hloops
    rw [h.skippable, hline, hstray, hdepth]
    simp only [Bool.false_eq_true, if_false, List.filterMap_append, h.quotes hline,
      h.endFindings_eq hline, hloops, h.types]
    cases hostNotes with
    | false => rfl
    | true => simp only [if_true, h.calls]

/-- What it takes to carry a relation between lines over to the check of two scripts: open blocks
correspond by `B`, and the findings of the two scripts are seen through `view` and `view'`. -/
structure Simulation (registry : Registry) (R : Nat → Nat → Line → Line → Prop)
    (B : OpenBlock → OpenBlock → Prop) (view view' : Finding → Option β) : Prop where
  lookAlike : ∀ i i' line line', R i i' line line' →
    LookAlike registry view view' i i' line line'
  opened : ∀ i i' line line', R i i' line line' →
    ∀ kind, B ⟨kind, i, line.length⟩ ⟨kind, i', line'.length⟩
  kind_eq : ∀ b b', B b b' → b'.kind = b.kind
  unclosed : ∀ b b', B b b' → view' ⟨b'.line, 0, b'.width, .unclosedBlock b'.kind⟩ =
    view ⟨b.line, 0, b.width, .unclosedBlock b.kind⟩

variable {R : Nat → Nat → Line → Line → Prop} {B : OpenBlock → OpenBlock → Prop}

/-- Related stacks have the same blocks left open. -/
theorem Simulation.filterMap_openFindings (sim : Simulation registry R B view view')
    {n n' : Nesting} (hn : n.Related B n') :
    (openFindings n').filterMap view' = (openFindings n).filterMap view := by
  obtain ⟨blocks, depth⟩ := n
  obtain ⟨blocks', depth'⟩ := n'
  cases hn.blocks with
  | nil => rfl
  | cons hb _ =>
    simp only [openFindings, List.filterMap_cons, List.filterMap_nil, sim.unclosed _ _ hb]

/-- The checks of aligned scripts from corresponding nestings on have the same findings, seen
through the two views. -/
theorem Simulation.filterMap_checkFrom (sim : Simulation registry R B view view') {n n' : Nesting}
    {lines lines' : List Line} (h : Aligned R i i' lines lines') (hn : n.Related B n') :
    (checkFrom registry hostNotes i' n' lines').filterMap view' =
      (checkFrom registry hostNotes i n lines).filterMap view := by
  induction h generalizing n n' with
  | nil => exact sim.filterMap_openFindings hn
  | @cons i i' line line' rest rest' hline _ ih =>
    have halike := sim.lookAlike _ _ _ _ hline
    obtain ⟨hafter, hstray⟩ :=
      hn.step sim.kind_eq (sim.opened _ _ _ _ hline) (BlockEvents.ofLine line)
    have hstep : n'.stepLine i' line' = n'.step i' line'.length (BlockEvents.ofLine line) := by
      rw [Nesting.stepLine, halike.ofLine_eq]
    simp only [checkFrom, List.filterMap_append, hstep]
    rw [halike.lineFindings_eq hstray hafter.loopDepth, ih hafter]
    rfl
  | skip hskip _ ih =>
    simp only [checkFrom, Nesting.stepLine_of_skippable _ _ hskip, lineFindings, hskip, if_true,
      List.nil_append]
    exact ih hn

/-- The checks of aligned scripts have the same findings, seen through the two views. -/
theorem Simulation.filterMap_check (sim : Simulation registry R B view view') (hostNotes : Bool)
    {lines lines' : List Line} (h : Aligned R 0 0 lines lines') :
    (check registry hostNotes lines').filterMap view' =
      (check registry hostNotes lines).filterMap view :=
  sim.filterMap_checkFrom h ⟨.nil, rfl⟩

end

end Structure

/-! ## Symbols -/

namespace Symbols

/-- The symbols of a line, when the paths in `seen` have been written to before. -/
def ofLine (index : Nat) (seen : List String) (line : Line) : List Symbol :=
  match masked? line with
  | none => []
  | some masked => ofMasked index seen masked

/-- The paths that a line writes to. -/
def pathsOf (line : Line) : List String :=
  match masked? line with
  | none => []
  | some masked => (writes masked).map (·.path)

/-- A skippable line is not masked at all. -/
theorem masked?_of_skippable {line : Line} (h : isSkippable line = true) : masked? line = none :=
  if_pos h

/-- The symbols of a script are those of its first line and those of the others, which do not count
the paths of the first line again. -/
theorem extractFrom_cons (i : Nat) (seen : List String) (line : Line) (rest : List Line) :
    extractFrom i seen (line :: rest) =
      ofLine i seen line ++ extractFrom (i + 1) (pathsOf line ++ seen) rest := by
  rw [extractFrom, ofLine, pathsOf]
  cases masked? line with
  | none => rfl
  | some masked => rfl

/-- Lines that are skippable or not together have the same symbols, seen through two views, if their
masked forms do. -/
theorem map_ofLine {β : Type} {view view' : Symbol → β} {i i' : Nat} {seen : List String}
    {line line' : Line} (hskip : isSkippable line' = isSkippable line)
    (h : (ofMasked i' seen (maskLine .stringsFirst line')).map view' =
      (ofMasked i seen (maskLine .stringsFirst line)).map view) :
    (ofLine i' seen line').map view' = (ofLine i seen line).map view := by
  rw [ofLine, ofLine, masked?, masked?, hskip]
  cases isSkippable line with
  | true => rfl
  | false => exact h

/-- Lines that are skippable or not together write to the same paths if their masked forms do. -/
theorem pathsOf_eq {line line' : Line} (hskip : isSkippable line' = isSkippable line)
    (h : (writes (maskLine .stringsFirst line')).map (·.path) =
      (writes (maskLine .stringsFirst line)).map (·.path)) :
    pathsOf line' = pathsOf line := by
  rw [pathsOf, pathsOf, masked?, masked?, hskip]
  cases isSkippable line with
  | true => rfl
  | false => exact h

section
variable {β : Type} {R : Nat → Nat → Line → Line → Prop} {view view' : Symbol → β}

/-- Aligned scripts have the same symbols, seen through two views, if related lines write to the
same paths and have the same symbols. -/
theorem map_extractFrom
    (hpaths : ∀ i i' line line', R i i' line line' → pathsOf line' = pathsOf line)
    (hsymbols : ∀ i i' line line', R i i' line line' → ∀ seen,
      (ofLine i' seen line').map view' = (ofLine i seen line).map view)
    {i i' : Nat} {lines lines' : List Line} (h : Aligned R i i' lines lines')
    (seen : List String) :
    (extractFrom i' seen lines').map view' = (extractFrom i seen lines).map view := by
  induction h generalizing seen with
  | nil => rfl
  | cons hline _ ih =>
    rw [extractFrom_cons, extractFrom_cons, List.map_append, List.map_append,
      hsymbols _ _ _ _ hline, hpaths _ _ _ _ hline, ih]
  | skip hskip _ ih =>
    rw [extractFrom_cons, ofLine, pathsOf, masked?_of_skippable hskip]
    exact ih seen

end

end Symbols

/-! ## Undefined names -/

namespace Usage

/-- Only the names of the symbols count for the uses of names. -/
theorem validate_eq_of_map_name_eq (registry : Registry) {symbols symbols' : List Symbol}
    (h : symbols'.map (·.name) = symbols.map (·.name)) (lines : List Line) :
    validate registry symbols' lines = validate registry symbols lines := by
  rw [validate, validate, declaredNames, declaredNames, h]

section
variable {β : Type} {R : Nat → Nat → Line → Line → Prop} {view view' : Finding → β}
  {registry : Registry} {declared : List String}

/-- Lines that are skippable or not together have the same undefined names, seen through two views,
if their masked forms do. -/
theorem map_lineFindings {i i' : Nat} {line line' : Line}
    (hskip : isSkippable line' = isSkippable line)
    (h : (maskedFindings registry declared i' (maskLine .stringsFirst line')).map view' =
      (maskedFindings registry declared i (maskLine .stringsFirst line)).map view) :
    (lineFindings registry declared i' line').map view' =
      (lineFindings registry declared i line).map view := by
  rw [lineFindings, lineFindings, Symbols.masked?, Symbols.masked?, hskip]
  cases isSkippable line with
  | true => rfl
  | false => exact h

/-- Aligned scripts have the same undefined names, seen through two views, if related lines do. -/
theorem map_validateFrom
    (hlines : ∀ i i' line line', R i i' line line' →
      (lineFindings registry declared i' line').map view' =
        (lineFindings registry declared i line).map view)
    {i i' : Nat} {lines lines' : List Line} (h : Aligned R i i' lines lines') :
    (validateFrom registry declared i' lines').map view' =
      (validateFrom registry declared i lines).map view := by
  induction h with
  | nil => rfl
  | cons hline _ ih =>
    rw [validateFrom, validateFrom, List.map_append, List.map_append, hlines _ _ _ _ hline, ih]
  | skip hskip _ ih =>
    rw [validateFrom, lineFindings, Symbols.masked?_of_skippable hskip]
    exact ih

end

end Usage

end ScriptLint
