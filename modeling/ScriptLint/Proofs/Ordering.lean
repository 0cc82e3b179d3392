import ScriptLint.Proofs.Annotation
import ScriptLint.Proofs.Calls

/-!
# The order of the results

The check and the search for undefined names list what they find line by line. On a line the check
follows the order of its rules, each of which finds one thing at most, and then notes the calls from
left to right (`ListedUpTo`, `listedUpTo_lineFindings`). The innermost open block comes last,
wherever its line is.

Symbols are put in order line by line. Two symbols of a line stand at different columns, but for a
variable that is declared by the first name of a path that is written to. This is read off what
stands around a name: behind the keyword of a declaration, behind the keyword of a loop, or in front
of a dot (`declaration_splits`, `loopBinding_splits`, `propertyWrite_splits`).

`results_in_order` puts these together.
-/

namespace ScriptLint

/-- On one line: `f` starts before `g` and ends where `g` starts or before. -/
def Finding.LeftOf (f g : Finding) : Prop := f.start < g.start ∧ f.stop ≤ g.start

/-! ## The check -/

namespace Structure

/-- The kinds of findings on a line, in the order in which the check lists them. -/
def lineKinds : List IssueKind :=
  [.unclosedString, .strayEnd, .strayLoopControl, .unknownType, .hostFunction]

/-- The order of the findings of the check on a line: by kind, and notes about calls from left to
right without overlap. Two findings of another kind are in neither order. -/
def ListedBefore (f g : Finding) : Prop :=
  lineKinds.idxOf f.issue.kind < lineKinds.idxOf g.issue.kind ∨
    f.issue.kind = .hostFunction ∧ g.issue.kind = .hostFunction ∧ f.LeftOf g

/-- Findings on a line in their order, of the first `n` kinds only. -/
def ListedUpTo (n : Nat) (found : List Finding) : Prop :=
  found.Pairwise ListedBefore ∧ ∀ f ∈ found, lineKinds.idxOf f.issue.kind < n

/-- The findings of the rule for the next kind can follow. -/
theorem ListedUpTo.append {n : Nat} {found more : List Finding} {kind : IssueKind}
    (h : ListedUpTo n found) (hkind : ∀ f ∈ more, f.issue.kind = kind)
    (hn : lineKinds.idxOf kind = n) (hmore : more.Pairwise ListedBefore) :
    ListedUpTo (n + 1) (found ++ more) := by
  have hnext (f : Finding) (hf : f ∈ more) : lineKinds.idxOf f.issue.kind = n := by
    rw [hkind f hf, hn]
  constructor
  · refine List.pairwise_append.2 ⟨h.1, hmore, ?_⟩
    intro f hf g hg
    exact .inl ((h.2 f hf).trans_eq (hnext g hg).symm)
  · intro f hf
    rcases List.mem_append.1 hf with hf | hf
    · exact Nat.lt_succ_of_lt (h.2 f hf)
    · exact Nat.lt_succ_of_le (Nat.le_of_eq (hnext f hf))

/-- At most one unclosed string is found on a line. -/
theorem pairwise_quoteFindings (R : Finding → Finding → Prop) (i : Nat) (line : Line) :
    (quoteFindings i line).Pairwise R := by
  unfold quoteFindings
  split
  · exact .nil
  · exact List.pairwise_singleton R _

/-- At most one stray `end` is found on a line. -/
theorem pairwise_endFindings (R : Finding → Finding → Prop) (i : Nat) (line : Line) (stray : Bool) :
    (endFindings i line stray).Pairwise R := by
  unfold endFindings
  split
  · exact List.pairwise_singleton R _
  · exact .nil

/-- At most one stray word of loop control is found on a line. -/
theorem pairwise_loopFindings (R : Finding → Finding → Prop) (i : Nat) (line : Line)
    (text : List Char) (depth : Int) : (loopFindings i line text depth).Pairwise R := by
  unfold loopFindings
  split
  · exact .nil
  · exact List.pairwise_singleton R _

/-- At most one unknown type is found on a line. -/
theorem pairwise_typeFindings (R : Finding → Finding → Prop) (i : Nat) (line : Line) :
    (typeFindings i line).Pairwise R := by
  unfold typeFindings
  split
  · exact .nil
  · dsimp only
    split
    · exact .nil
    · exact List.pairwise_singleton R _

/-- The notes about calls come from left to right and do not overlap. -/
theorem pairwise_callFindings (registry : Registry) (i : Nat) (line : Line) :
    (callFindings registry i (maskLine .commentFirst line)).Pairwise Finding.LeftOf := by
  rw [callFindings, List.pairwise_filterMap]
  refine (Rules.hostCall.pairwise_scan _).imp_of_mem ?_
  intro call call' hcall hcall' hbefore f hf g hg
  simp only [Option.ite_none_right_eq_some, Option.some.injEq] at hf hg
  obtain ⟨column, hcolumn, hcalled⟩ := exists_calledAt_of_mem_scan hcall
  obtain ⟨column', hcolumn', hcalled'⟩ := exists_calledAt_of_mem_scan hcall'
  have hlt := rawColumn_lt_rawColumn .commentFirst line (Int.ofNat_lt.2 hbefore.1)
  rw [← hf.2, ← hg.2, Finding.LeftOf]
  rw [hcolumn, hcolumn'] at hlt ⊢
  have hapart := hcalled.wordAt.disjoint hcalled'.wordAt (Int.ofNat_lt.1 hlt)
  refine ⟨hlt, ?_⟩
  show (column : Int) + call.value.length ≤ column'
  omega

/-- The findings on a line come in the order of the rules. -/
theorem listedUpTo_lineFindings (registry : Registry) (hostNotes : Bool) (i : Nat)
    (step : Nesting.Step) (line : Line) :
    ListedUpTo lineKinds.length (lineFindings registry hostNotes i step line) := by
  unfold lineFindings
  split
  · exact ⟨.nil, nofun⟩
  · have hnone : ListedUpTo 0 [] := ⟨.nil, nofun⟩
    have hquotes := hnone.append (fun f hf => (kind_of_mem_quoteFindings hf).2) (by decide)
      (pairwise_quoteFindings _ i line)
    have hends := hquotes.append (fun f hf => (kind_of_mem_endFindings hf).2) (by decide)
      (pairwise_endFindings _ i line step.strayEnd)
    have hloops := hends.append (fun f hf => (kind_of_mem_loopFindings hf).2) (by decide)
      (pairwise_loopFindings _ i line (maskLine .commentFirst line).text step.after.loopDepth)
    have htypes := hloops.append (fun f hf => (kind_of_mem_typeFindings hf).2) (by decide)
      (pairwise_typeFindings _ i line)
    have hnotes : ∀ f ∈ if hostNotes then callFindings registry i (maskLine .commentFirst line)
        else [], f.issue.kind = .hostFunction := by
      intro f hf
      split at hf
      · exact (kind_of_mem_callFindings hf).2
      · cases hf
    refine htypes.append hnotes (by decide) ?_
    · split
      · refine (pairwise_callFindings registry i line).imp_of_mem ?_
        intro f g hf hg hleft
        exact .inr ⟨(kind_of_mem_callFindings hf).2, (kind_of_mem_callFindings hg).2, hleft⟩
      · exact .nil

/-- The check lists the findings on the lines in order, and behind them one open block at most. -/
theorem exists_check_eq_append (registry : Registry) (hostNotes : Bool) (lines : List Line) :
    ∃ found unclosed, check registry hostNotes lines = found ++ unclosed ∧
      found.Pairwise (Finding.ByLine ListedBefore) ∧ (∀ f ∈ found, f.issue.kind ∈ lineKinds) ∧
      unclosed.length ≤ 1 ∧ ∀ f ∈ unclosed, f.issue.kind = .unclosedBlock := by
  refine ⟨_, _, check_eq registry hostNotes lines, ?_, ?_, ?_, ?_⟩
  · refine pairwise_flatten_mapIdx (k := 0) (fun i line f hf => ?_)
      (fun i line => (listedUpTo_lineFindings registry hostNotes i (stepAt lines i) line).1) lines
    rw [line_of_mem_lineFindings hf, Nat.zero_add]
  · intro f hf
    obtain ⟨i, line, -, hf⟩ := mem_flatten_mapIdx.1 hf
    exact List.idxOf_lt_length_iff.1 ((listedUpTo_lineFindings registry hostNotes i _ line).2 f hf)
  · unfold openFindings
    split
    · exact Nat.zero_le _
    · exact Nat.le_refl _
  · intro f hf
    exact kind_of_mem_openFindings hf

end Structure

/-! ## Undefined names -/

/-- The undefined names of a script come in order and do not overlap. -/
theorem Usage.pairwise_leftOf_validate (registry : Registry) (symbols : List Symbol)
    (lines : List Line) :
    (validate registry symbols lines).Pairwise (Finding.ByLine Finding.LeftOf) := by
  refine (pairwise_validate registry symbols lines).imp_of_mem ?_
  intro f g hf hg hbefore
  rcases hbefore with hlt | ⟨hline, hlt⟩
  · exact .inl hlt
  · obtain ⟨i, line, column, name, hget, huse, rfl⟩ := mem_validate.1 hf
    obtain ⟨i', line', column', name', hget', huse', rfl⟩ := mem_validate.1 hg
    obtain rfl : i = i' := hline
    obtain rfl : line = line' := Option.some.inj (hget.symm.trans hget')
    have hapart := huse.variableAt.wordAt.disjoint huse'.variableAt.wordAt (Int.ofNat_lt.1 hlt)
    refine .inr ⟨rfl, hlt, ?_⟩
    show (column : Int) + name.length ≤ column'
    omega

/-! ## What stands around a name -/

/-- Blanks behind a character that is not blank are trimmed up to it. -/
theorem getLast?_trimEnd {c : Char} (hc : isBlank c = false) {w : List Char} (hw : AllBlank w)
    (cs : List Char) : (trimEnd (cs ++ [c] ++ w)).getLast? = some c := by
  rw [trimEnd_append hw, trimEnd_concat hc, List.getLast?_concat]

/-- A dotted path starts with a word and a dot. -/
theorem IsDottedPath.exists_word {path : List Char} (h : IsDottedPath path) :
    ∃ name tail, IsWord name ∧ path = name ++ '.' :: tail := by
  obtain ⟨names, hlen, hnames, rfl⟩ := h
  match names, hlen with
  | name :: next :: names, _ =>
    refine ⟨name, next ++ names.flatMap ('.' :: ·), (hnames name List.mem_cons_self).1, ?_⟩
    rw [intercalate_dot_cons, List.flatMap_cons, List.cons_append]

namespace Rules

/-- The name of a declaration starts before the end of the match. -/
theorem offset_lt_of_declaration {prev : Option Char} {cs : List Char} {width : Nat}
    {d : Declaration} (h : declaration prev cs = some (width, d)) : d.name.offset < width := by
  obtain ⟨hd, rfl⟩ := declaration?_of_declaration h
  obtain ⟨-, -, -, -, -, -, htype, -⟩ := exists_gap_of_declaration? hd
  have hpos := List.length_pos_iff.2 (declaration?_eq_some hd).1.1.1
  unfold Declaration.width Capture.stop
  cases ht : d.typeName with
  | none =>
    show d.name.offset < d.name.offset + d.name.text.length
    omega
  | some t =>
    have := htype t ht
    show d.name.offset < t.offset + t.text.length
    omega

/-- A declared name stands behind `var` and blanks, and goes on as long as the word does. -/
theorem declaration_splits {text : List Char} {f : Found Declaration}
    (h : f ∈ declaration.scan text) :
    ∃ front behind, text = front ++ behind ∧ front.length = f.column + f.value.name.offset ∧
      (trimEnd front).getLast? = some 'r' ∧ f.value.name.text = behind.takeWhile isWordChar := by
  obtain ⟨before, rest, rfl, -, hcol, hrule⟩ := Rule.matchesAt_of_mem_scan h
  obtain ⟨gap, behind, rfl, hgap, -, hoffset, -, hname⟩ :=
    exists_gap_of_declaration? (declaration?_of_declaration hrule).1
  refine ⟨before ++ ("var".toList ++ gap), behind, by simp, ?_, ?_, hname⟩
  · rw [List.length_append, hcol, hoffset]
  · have hlast : before ++ ("var".toList ++ gap) = before ++ "va".toList ++ ['r'] ++ gap := by simp
    rw [hlast]
    exact getLast?_trimEnd (by decide) hgap _

/-- A loop binding is `foreach`, blanks, the name and a blank, and does not end before the name. -/
theorem exists_gap_of_loopBinding {prev : Option Char} {cs : List Char} {width : Nat} {c : Capture}
    (h : loopBinding prev cs = some (width, c)) :
    ∃ gap behind, cs = "foreach".toList ++ (gap ++ behind) ∧ AllBlank gap ∧
      c.offset = ("foreach".toList ++ gap).length ∧ c.offset < width ∧
      (behind.dropWhile isWordChar).head?.any isBlank = true := by
  unfold loopBinding at h
  split at h
  · cases h
  · split at h
    · cases h
    · next rest hrest =>
      obtain rfl := afterText?_eq_some_iff.1 hrest
      simp only [Option.ite_none_left_eq_some, Option.ite_none_right_eq_some, Option.some.injEq,
        Prod.mk.injEq, Bool.or_eq_true, not_or, Bool.not_eq_true] at h
      obtain ⟨⟨-, hgap⟩, -, rfl, rfl⟩ := h
      refine ⟨rest.takeWhile isBlank, trimStart rest, ?_, ?_, ?_, ?_, ?_⟩
      · rw [takeWhile_append_trimStart]
      · intro c hc
        exact List.mem_takeWhile_imp hc
      · rw [List.length_append]
        rfl
      · dsimp only
        omega
      · cases hbehind : (trimStart rest).dropWhile isWordChar with
        | nil => simp [hbehind] at hgap
        | cons c cs =>
          rw [hbehind] at hgap
          by_contra hblank
          rw [List.takeWhile_cons_of_neg (by simpa using hblank)] at hgap
          cases hgap

/-- A loop variable stands behind `foreach` and blanks, and a blank follows. -/
theorem loopBinding_splits {text : List Char} {f : Found Capture} (h : f ∈ loopBinding.scan text) :
    ∃ front behind, text = front ++ behind ∧ front.length = f.column + f.value.offset ∧
      (trimEnd front).getLast? = some 'h' ∧
      (behind.dropWhile isWordChar).head?.any isBlank = true := by
  obtain ⟨before, rest, rfl, -, hcol, hrule⟩ := Rule.matchesAt_of_mem_scan h
  obtain ⟨gap, behind, rfl, hgap, hoffset, -, hblank⟩ := exists_gap_of_loopBinding hrule
  refine ⟨before ++ ("foreach".toList ++ gap), behind, by simp, ?_, ?_, hblank⟩
  · rw [List.length_append, hcol, hoffset]
  · have hlast : before ++ ("foreach".toList ++ gap) =
        before ++ "foreac".toList ++ ['h'] ++ gap := by
      simp
    rw [hlast]
    exact getLast?_trimEnd (by decide) hgap _

/-- A path that is written to starts with a whole word and a dot. -/
theorem propertyWrite_splits {text : List Char} {f : Found (List Char)}
    (h : f ∈ propertyWrite.scan text) :
    ∃ front behind, text = front ++ behind ∧ front.length = f.column ∧
      (∃ tail, f.value = behind.takeWhile isWordChar ++ '.' :: tail) ∧
      (behind.dropWhile isWordChar).head? = some '.' := by
  obtain ⟨before, rest, rfl, -, hcol, hrule⟩ := Rule.matchesAt_of_mem_scan h
  obtain ⟨hpath, front, back, rfl, hfront⟩ := propertyWrite_eq_some hrule
  obtain rfl := List.length_eq_zero_iff.1 hfront
  obtain ⟨name, tail, hname, hvalue⟩ := hpath.exists_word
  refine ⟨before, f.value ++ back, rfl, hcol, ?_, ?_⟩
  · have hdot : ('.' :: tail ++ back).head?.any isWordChar = false :=
      (by decide : isWordChar '.' = false)
    rw [hvalue, List.append_assoc, takeWhile_run hname.2 hdot]
    exact ⟨tail, rfl⟩
  · rw [hvalue, List.append_assoc, List.dropWhile_append_of_pos hname.2, List.cons_append,
      List.dropWhile_cons_of_neg (by decide)]
    rfl

end Rules

/-! ## Symbols -/

namespace Symbols

/-- A line declares a variable and writes to a path that starts with its name. -/
structure DeclaresRootOf (line : Line) (s t : Symbol) : Prop where
  declared : s ∈ declarations s.line (maskLine .stringsFirst line)
  written : t ∈ (writes (maskLine .stringsFirst line)).map (Write.toSymbol t.line)
  path : ∃ tail, t.name = s.name ++ "." ++ tail

/-- Symbols of a line come in order: by column, and at one column as `R` says. -/
def ByColumn (R : Symbol → Symbol → Prop) (s t : Symbol) : Prop :=
  s.character < t.character ∨ s.character = t.character ∧ R s t

/-- Symbols of a script come in order: by line and by column. Only a variable and a path that starts
with its name are at the same place, and the variable comes first. -/
def InOrder (lines : List Line) (s t : Symbol) : Prop :=
  s.line < t.line ∨
    s.line = t.line ∧ ByColumn (DeclaresRootOf (lines.getD s.line [])) s t

section ByColumn

variable {R : Symbol → Symbol → Prop}

/-- A symbol is inserted at its place among those in order. -/
theorem pairwise_insertByColumn {s : Symbol} {ss : List Symbol} (hss : ss.Pairwise (ByColumn R))
    (hs : ∀ t ∈ ss, s.character = t.character → R s t) :
    (insertByColumn s ss).Pairwise (ByColumn R) := by
  induction ss with
  | nil => exact List.pairwise_singleton _ s
  | cons t ts ih =>
    have hfirst := List.pairwise_cons.1 hss
    rw [insertByColumn]
    split
    · next hle =>
      refine List.pairwise_cons.2 ⟨?_, hss⟩
      intro u hu
      have hle' : s.character ≤ u.character := by
        rcases List.mem_cons.1 hu with rfl | hu'
        · exact hle
        · have := hfirst.1 u hu'
          unfold ByColumn at this
          omega
      rcases Int.lt_or_eq_of_le hle' with hlt | heq
      · exact .inl hlt
      · exact .inr ⟨heq, hs u hu heq⟩
    · next hlt =>
      refine List.pairwise_cons.2 ⟨?_, ih hfirst.2 fun u hu => hs u (List.mem_cons_of_mem t hu)⟩
      intro u hu
      rcases List.mem_cons.1 ((insertByColumn_perm s ts).mem_iff.1 hu) with rfl | hu
      · exact .inl (Int.not_le.1 hlt)
      · exact hfirst.1 u hu

/-- Listing symbols by column keeps the order of those at the same column. -/
theorem pairwise_byColumn {ss : List Symbol}
    (h : ss.Pairwise fun s t => s.character = t.character → R s t) :
    (byColumn ss).Pairwise (ByColumn R) := by
  induction ss with
  | nil => exact .nil
  | cons s ss ih =>
    obtain ⟨hs, hss⟩ := List.pairwise_cons.1 h
    exact pairwise_insertByColumn (ih hss) fun t ht => hs t ((byColumn_perm ss).mem_iff.1 ht)

end ByColumn

section

variable (i : Nat) (line : Line)

/-- Declarations are found from left to right. -/
theorem pairwise_declarations :
    (declarations i (maskLine .stringsFirst line)).Pairwise (·.character < ·.character) := by
  rw [declarations, List.pairwise_map]
  refine (Rules.declaration.pairwise_scan _).imp_of_mem ?_
  intro f g hf hg hbefore
  obtain ⟨before, rest, -, -, -, hrule⟩ := Rule.matchesAt_of_mem_scan hf
  have hlt := Rules.offset_lt_of_declaration hrule
  have hend := hbefore.2
  exact rawColumn_lt_rawColumn .stringsFirst line (Int.ofNat_lt.2 (by omega))

/-- Iterators are found from left to right. -/
theorem pairwise_iterators :
    (iterators i (maskLine .stringsFirst line)).Pairwise (·.character < ·.character) := by
  rw [iterators, List.pairwise_map]
  refine (Rules.loopBinding.pairwise_scan _).imp_of_mem ?_
  intro f g hf hg hbefore
  obtain ⟨before, rest, -, -, -, hrule⟩ := Rule.matchesAt_of_mem_scan hf
  obtain ⟨-, -, -, -, -, hlt, -⟩ := Rules.exists_gap_of_loopBinding hrule
  have hend := hbefore.2
  exact rawColumn_lt_rawColumn .stringsFirst line (Int.ofNat_lt.2 (by omega))

/-- The writes on a line are listed from left to right. -/
theorem pairwise_writes :
    (writes (maskLine .stringsFirst line)).Pairwise (·.column < ·.column) := by
  rw [writes, List.pairwise_map]
  refine (Rules.propertyWrite.pairwise_scan _).imp ?_
  intro f g hbefore
  exact rawColumn_lt_rawColumn .stringsFirst line (Int.ofNat_lt.2 hbefore.1)

/-- The first writes of properties are found from left to right. -/
theorem pairwise_firstWrites (seen : List String) :
    ((firstWrites seen (writes (maskLine .stringsFirst line))).map (Write.toSymbol i)).Pairwise
      (·.character < ·.character) := by
  rw [List.pairwise_map]
  exact (pairwise_writes line).sublist (firstWrites_sublist seen _)

variable {i line}

/-- No name is both declared and a loop variable: different keywords stand before it. -/
theorem character_ne_of_mem_iterators {s t : Symbol}
    (hs : s ∈ declarations i (maskLine .stringsFirst line))
    (ht : t ∈ iterators i (maskLine .stringsFirst line)) : s.character ≠ t.character := by
  intro heq
  obtain ⟨f, hf, rfl⟩ := List.mem_map.1 hs
  obtain ⟨g, hg, rfl⟩ := List.mem_map.1 ht
  have hcolumn := Int.ofNat_inj.1 ((rawColumn_inj .stringsFirst line).1 heq)
  obtain ⟨front, behind, htext, hlen, hlast, -⟩ := Rules.declaration_splits hf
  obtain ⟨front', behind', htext', hlen', hlast', -⟩ := Rules.loopBinding_splits hg
  obtain ⟨rfl, -⟩ := List.append_inj (htext.symm.trans htext') (by omega)
  rw [hlast] at hlast'
  exact absurd hlast' (by decide)

/-- No loop variable starts a path that is written to: a blank follows it, and no dot. -/
theorem character_ne_of_mem_writes {s : Symbol} {w : Write}
    (hs : s ∈ iterators i (maskLine .stringsFirst line))
    (hw : w ∈ writes (maskLine .stringsFirst line)) : s.character ≠ w.column := by
  intro heq
  obtain ⟨f, hf, rfl⟩ := List.mem_map.1 hs
  obtain ⟨g, hg, rfl⟩ := List.mem_map.1 hw
  have hcolumn := Int.ofNat_inj.1 ((rawColumn_inj .stringsFirst line).1 heq)
  obtain ⟨front, behind, htext, hlen, -, hblank⟩ := Rules.loopBinding_splits hf
  obtain ⟨front', behind', htext', hlen', -, hdot⟩ := Rules.propertyWrite_splits hg
  obtain ⟨-, rfl⟩ := List.append_inj (htext.symm.trans htext') (by omega)
  rw [hdot] at hblank
  exact absurd hblank (by decide)

/-- A path that is written to where a variable is declared starts with the name of the variable. -/
theorem exists_path_eq_of_mem_writes {s : Symbol} {w : Write}
    (hs : s ∈ declarations i (maskLine .stringsFirst line))
    (hw : w ∈ writes (maskLine .stringsFirst line)) (heq : s.character = w.column) :
    ∃ tail, w.path = s.name ++ "." ++ tail := by
  obtain ⟨f, hf, rfl⟩ := List.mem_map.1 hs
  obtain ⟨g, hg, rfl⟩ := List.mem_map.1 hw
  have hcolumn := Int.ofNat_inj.1 ((rawColumn_inj .stringsFirst line).1 heq)
  obtain ⟨front, behind, htext, hlen, -, hname⟩ := Rules.declaration_splits hf
  obtain ⟨front', behind', htext', hlen', ⟨tail, hpath⟩, -⟩ := Rules.propertyWrite_splits hg
  obtain ⟨-, rfl⟩ := List.append_inj (htext.symm.trans htext') (by omega)
  refine ⟨String.ofList tail, ?_⟩
  show String.ofList g.value =
    String.ofList f.value.name.text ++ String.ofList ['.'] ++ String.ofList tail
  rw [hpath, hname, ← String.ofList_append, ← String.ofList_append, List.append_assoc]
  rfl

/-- Declarations are on the line where they are found. -/
theorem line_eq_of_mem_declarations {s : Symbol} {m : MaskedLine} (hs : s ∈ declarations i m) :
    s.line = i := by
  obtain ⟨f, -, rfl⟩ := List.mem_map.1 hs
  rfl

/-- The symbols of a line come in order. -/
theorem pairwise_ofMasked (seen : List String) :
    (ofMasked i seen (maskLine .stringsFirst line)).Pairwise (ByColumn (DeclaresRootOf line)) := by
  have hapart {s t : Symbol} (hlt : s.character < t.character) (heq : s.character = t.character) :
      DeclaresRootOf line s t := absurd heq (Int.ne_of_lt hlt)
  refine pairwise_byColumn ?_
  rw [List.pairwise_append, List.pairwise_append]
  refine ⟨⟨(pairwise_declarations i line).imp hapart, (pairwise_iterators i line).imp hapart, ?_⟩,
    (pairwise_firstWrites i line seen).imp hapart, ?_⟩
  · intro s hs t ht heq
    exact absurd heq (character_ne_of_mem_iterators hs ht)
  · intro s hs t ht heq
    obtain ⟨w, hw, rfl⟩ := List.mem_map.1 ht
    have hw := (firstWrites_sublist _ _).subset hw
    rcases List.mem_append.1 hs with hs | hs
    · refine ⟨?_, List.mem_map.2 ⟨w, hw, rfl⟩, exists_path_eq_of_mem_writes hs hw heq⟩
      rw [line_eq_of_mem_declarations hs]
      exact hs
    · exact absurd heq (character_ne_of_mem_writes hs hw)

end

/-- The symbols of a line that takes part are those of its masked form. -/
theorem ofLine_eq (i : Nat) (seen : List String) (line : Line) :
    ofLine i seen line =
      if isSkippable line then [] else ofMasked i seen (maskLine .stringsFirst line) := by
  unfold ofLine masked?
  cases isSkippable line with
  | true => rfl
  | false => rfl

/-- The symbols from line `k` on come in order. -/
theorem pairwise_extractFrom {lines rest : List Line} {k : Nat} (h : lines.drop k = rest)
    (seen : List String) : (extractFrom k seen rest).Pairwise (InOrder lines) := by
  induction rest generalizing k seen with
  | nil => exact .nil
  | cons line rest ih =>
    have hgetD : lines.getD k [] = line := by
      rw [List.getD_eq_getElem?_getD, ← List.head?_drop, h]
      rfl
    have hrest : lines.drop (k + 1) = rest := by
      rw [← List.drop_drop, h]
      rfl
    have hline {s : Symbol} (hs : s ∈ ofLine k seen line) : s.line = k := by
      rw [ofLine_eq] at hs
      split at hs
      · cases hs
      · exact (standsIn_of_mem_ofMasked hs).1
    rw [extractFrom_cons, List.pairwise_append]
    refine ⟨?_, ih hrest _, ?_⟩
    · have hsorted : (ofLine k seen line).Pairwise (ByColumn (DeclaresRootOf line)) := by
        rw [ofLine_eq]
        split
        · exact .nil
        · exact pairwise_ofMasked seen
      refine hsorted.imp_of_mem ?_
      intro s t hs ht hst
      refine .inr ⟨(hline hs).trans (hline ht).symm, ?_⟩
      rw [hline hs, hgetD]
      exact hst
    · intro s hs t ht
      obtain ⟨j, line', seen', -, ht⟩ := exists_line_of_mem_extractFrom ht
      refine .inl ?_
      rw [hline hs, (standsIn_of_mem_ofMasked ht).1]
      omega

end Symbols

/-- **Results come in order.** The diagnostics of a script are those of the check followed by the
undefined names. The check lists the findings of each line together, by line, and on a line by kind:
at most one unclosed string, stray `end`, misplaced loop control and unknown type, then the notes
about calls from left to right without overlap; one unclosed block at most comes behind all of
these. The undefined names are listed by line and column without overlap. The symbols are listed by
line and column, and two of them are at the same place only if the line declares a variable there
and then writes to a path that starts with its name. -/
theorem results_in_order (registry : Registry) (options : Options) (lines : List Line) :
    analyze registry options lines =
      (Structure.check registry options.warnOnHostFunctions lines).map (·.toDiagnostic) ++
        (Usage.validate registry (Symbols.extract lines) lines).map (·.toDiagnostic) ∧
    (∃ found unclosed, Structure.check registry options.warnOnHostFunctions lines =
        found ++ unclosed ∧
      found.Pairwise (Finding.ByLine Structure.ListedBefore) ∧
      (∀ f ∈ found, f.issue.kind ∈ Structure.lineKinds) ∧
      unclosed.length ≤ 1 ∧ ∀ f ∈ unclosed, f.issue.kind = .unclosedBlock) ∧
    (Usage.validate registry (Symbols.extract lines) lines).Pairwise
      (Finding.ByLine Finding.LeftOf) ∧
    (Symbols.extract lines).Pairwise (Symbols.InOrder lines) := by
  refine ⟨List.map_append, ?_, ?_, ?_⟩
  · exact Structure.exists_check_eq_append registry _ lines
  · exact Usage.pairwise_leftOf_validate registry _ lines
  · exact Symbols.pairwise_extractFrom List.drop_zero []

end ScriptLint
