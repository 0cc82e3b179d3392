import ScriptLint.Proofs.Contents
import ScriptLint.Proofs.Indentation

/-!
# Types of leading declarations

Two passes read the declaration that a line begins with. The check reads its type off the line
itself and reports it if it is unknown; the search for symbols finds the declaration, among others,
in the masked text. They agree. Neither reads past the first quote or `#`, and up to there the line
and its masked text are the same, columns included (`leadingType_maskLine`). In a text, the leading
declaration is the match of the rule for declarations that has only blanks before it
(`Rules.mem_scan_declaration_iff`).

Among the symbols of a line the leading declaration is known by what stands before its name: blanks,
`var` and blanks (`LeadingDeclaration`, `leadingDeclaration_iff`). `unknown_types_agree` states the
agreement in these terms.
-/

namespace ScriptLint

/-! ## What stands before a declared name -/

/-- The front of a line up to a declared name: blanks, `var` and at least one blank. -/
def IsDeclarationHead (front : List Char) : Prop :=
  ∃ blanks gap, front = blanks ++ ("var".toList ++ gap) ∧ AllBlank blanks ∧ AllBlank gap ∧ gap ≠ []

/-- Characters that are neither blank nor in `var` are not in front of a declared name. -/
theorem IsDeclarationHead.notMem {front : List Char} (h : IsDeclarationHead front) {c : Char}
    (hblank : isBlank c = false) (hvar : c ∉ "var".toList) : c ∉ front := by
  obtain ⟨blanks, gap, rfl, hblanks, hgap, -⟩ := h
  rw [List.mem_append, List.mem_append, not_or, not_or]
  exact ⟨hblanks.notMem hblank, hvar, hgap.notMem hblank⟩

/-- Blanks at the end of a text are trimmed. -/
theorem trimEnd_append {w : List Char} (hw : AllBlank w) (cs : List Char) :
    trimEnd (cs ++ w) = trimEnd cs := by
  rw [trimEnd, trimEnd, List.reverse_append, List.dropWhile_append_of_pos]
  intro c hc
  exact hw c (List.mem_reverse.1 hc)

/-- A text that ends with a character that is not blank has nothing to trim. -/
theorem trimEnd_concat {c : Char} (hc : isBlank c = false) (cs : List Char) :
    trimEnd (cs ++ [c]) = cs ++ [c] := by
  rw [trimEnd, List.reverse_concat, List.dropWhile_cons_of_neg (by rw [hc]; decide),
    List.reverse_cons, List.reverse_reverse]

/-- In front of a declared name, only blanks stand before the last `var`. -/
theorem IsDeclarationHead.allBlank {before gap : List Char}
    (h : IsDeclarationHead (before ++ ("var".toList ++ gap))) (hgap : AllBlank gap) :
    AllBlank before := by
  obtain ⟨blanks, gap', heq, hblanks, hgap', -⟩ := h
  have htrim (cs : List Char) : trimEnd (cs ++ "var".toList) = cs ++ "var".toList := by
    have hlast : cs ++ "var".toList = cs ++ ['v', 'a'] ++ ['r'] := by simp
    rw [hlast]
    exact trimEnd_concat (by decide) _
  have hsame := congrArg trimEnd heq
  rw [← List.append_assoc, ← List.append_assoc, trimEnd_append hgap, trimEnd_append hgap', htrim,
    htrim] at hsame
  exact List.append_cancel_right hsame ▸ hblanks

/-! ## The leading declaration of a text -/

namespace Rules

/-- A declaration is `var`, blanks and the name; the type is behind the name. -/
theorem exists_gap_of_declaration? {cs : List Char} {d : Declaration}
    (h : declaration? cs = some d) :
    ∃ gap behind, cs = "var".toList ++ (gap ++ behind) ∧ AllBlank gap ∧ gap ≠ [] ∧
      d.name.offset = ("var".toList ++ gap).length ∧
      (∀ t, d.typeName = some t → d.name.offset < t.offset) ∧
      d.name.text = behind.takeWhile isWordChar := by
  unfold declaration? at h
  split at h
  · cases h
  · next rest hrest =>
    obtain rfl := afterText?_eq_some_iff.1 hrest
    simp only [Option.ite_none_left_eq_some, Option.some.injEq, Bool.or_eq_true, not_or,
      Bool.not_eq_true] at h
    obtain ⟨⟨hgap, hname⟩, rfl⟩ := h
    refine ⟨rest.takeWhile isBlank, trimStart rest, ?_, ?_, by simpa using hgap, ?_, ?_, rfl⟩
    · rw [takeWhile_append_trimStart]
    · intro c hc
      exact List.mem_takeWhile_imp hc
    · rw [List.length_append]
      rfl
    · intro t ht
      obtain ⟨u, -, rfl⟩ := Option.map_eq_some_iff.1 ht
      have hpos := List.length_pos_iff.2 (isWord_takeWhile hname).1
      show 3 + (rest.takeWhile isBlank).length <
        3 + (rest.takeWhile isBlank).length + ((trimStart rest).takeWhile isWordChar).length +
          u.offset
      omega

/-- A declaration does not start with a blank. -/
theorem trimStart_of_declaration? {cs : List Char} {d : Declaration}
    (h : declaration? cs = some d) :
    trimStart cs = cs ∧ cs.takeWhile isBlank = [] := by
  obtain ⟨gap, behind, rfl, -⟩ := exists_gap_of_declaration? h
  constructor
  · exact List.dropWhile_cons_of_neg (by decide)
  · exact List.takeWhile_cons_of_neg (by decide)

/-- A match of the rule for declarations has a declaration behind it. -/
theorem declaration?_of_declaration {prev : Option Char} {cs : List Char} {width : Nat}
    {d : Declaration} (h : declaration prev cs = some (width, d)) :
    declaration? cs = some d ∧ width = d.width := by
  simp only [declaration, Option.ite_none_left_eq_some] at h
  obtain ⟨d', hd', heq⟩ := Option.map_eq_some_iff.1 h.2
  cases heq
  exact ⟨hd', rfl⟩

/-- The match with only blanks before it is the declaration at the start of the trimmed text. -/
theorem mem_scan_declaration_iff {text : List Char} {f : Found Declaration} :
    (f ∈ declaration.scan text ∧ AllBlank (text.take f.column)) ↔
      f.column = indent text ∧ f.width = f.value.width ∧
        declaration? (trimStart text) = some f.value := by
  constructor
  · intro h
    obtain ⟨hf, hblank⟩ := h
    obtain ⟨before, rest, rfl, -, hcol, hrule⟩ := Rule.matchesAt_of_mem_scan hf
    obtain ⟨hd, hwidth⟩ := declaration?_of_declaration hrule
    obtain ⟨htrim, hnone⟩ := trimStart_of_declaration? hd
    rw [← hcol, List.take_left] at hblank
    refine ⟨?_, hwidth, ?_⟩
    · rw [indent, takeWhile_isBlank_append hblank, hnone, List.append_nil, hcol]
    · rw [trimStart_append hblank, htrim]
      exact hd
  · intro h
    obtain ⟨hcol, hwidth, hd⟩ := h
    have hblank : AllBlank (text.takeWhile isBlank) := fun c hc => List.mem_takeWhile_imp hc
    have htake : text.take f.column = text.takeWhile isBlank := by
      rw [hcol, indent]
      exact (List.prefix_iff_eq_take.1 (List.takeWhile_prefix isBlank)).symm
    refine ⟨?_, htake ▸ hblank⟩
    have hfirst : ⟨0, f.width, f.value⟩ ∈ declaration.scan (trimStart text) := by
      refine Rule.mem_scan_of_matchesAt ⟨[], trimStart text, rfl, ?_, rfl, ?_⟩ ?_
      · intro hnil
        rw [hnil] at hd
        cases hd
      · show (declaration? (trimStart text)).map (fun d => (d.width, d)) = _
        rw [hd, hwidth]
        rfl
      · intro g _ hlt
        exact absurd hlt (Nat.not_lt_zero _)
    rw [← takeWhile_append_trimStart text, declaration_skipsBlanks.scan_append hblank]
    refine List.mem_map.2 ⟨_, hfirst, ?_⟩
    show (⟨0 + (text.takeWhile isBlank).length, f.width, f.value⟩ : Found Declaration) = f
    rw [Nat.zero_add, ← indent, ← hcol]

/-- The type of a leading declaration is that of the declaration at the start of the trimmed
text. -/
theorem leadingType_eq_some_iff {text : List Char} {width : Nat} {type : Capture} :
    leadingType none text = some (width, type) ↔
      ∃ d t, declaration? (trimStart text) = some d ∧ d.typeName = some t ∧
        type = ⟨indent text + t.offset, t.text⟩ ∧ width = type.stop := by
  simp only [leadingType, Option.isSome_none, Bool.false_eq_true, if_false]
  constructor
  · intro h
    split at h
    · next name t hd =>
      cases h
      exact ⟨_, t, hd, rfl, rfl, rfl⟩
    · cases h
  · intro h
    obtain ⟨⟨name, typeName⟩, t, hd, ht, rfl, rfl⟩ := h
    dsimp only at ht
    subst ht
    rw [hd]
    rfl

end Rules

/-! ## The line and its masked text -/

/-- The front of a line up to its first quote or `#`. -/
theorem exists_front (line : Line) :
    ∃ front back, line = front ++ back ∧ quoteMark ∉ front ∧ commentMark ∉ front ∧
      (back = [] ∨ (∃ rest, back = quoteMark :: rest) ∨ ∃ rest, back = commentMark :: rest) := by
  induction line with
  | nil => exact ⟨[], [], rfl, List.not_mem_nil, List.not_mem_nil, .inl rfl⟩
  | cons c line ih =>
    by_cases hquote : c = quoteMark
    · exact ⟨[], c :: line, rfl, List.not_mem_nil, List.not_mem_nil,
        .inr (.inl ⟨line, by rw [hquote]⟩)⟩
    by_cases hmark : c = commentMark
    · exact ⟨[], c :: line, rfl, List.not_mem_nil, List.not_mem_nil,
        .inr (.inr ⟨line, by rw [hmark]⟩)⟩
    obtain ⟨front, back, rfl, hquotes, hmarks, hback⟩ := ih
    refine ⟨c :: front, back, rfl, ?_, ?_, hback⟩
    · simp [hquotes, Ne.symm hquote]
    · simp [hmarks, Ne.symm hmark]

/-- With strings first, a line that starts with a quote still does so when masked. -/
theorem exists_text_quoteMark (rest : List Char) :
    ∃ shown, (maskLine .stringsFirst (quoteMark :: rest)).text = quoteMark :: shown := by
  have hhide : ∃ shown, hideStrings (quoteMark :: rest) = quoteMark :: shown := ⟨_, rfl⟩
  obtain ⟨shown, hshown⟩ := hhide
  refine ⟨cutComment shown, ?_⟩
  show cutComment (hideStrings (quoteMark :: rest)) = _
  rw [hshown]
  exact cutComment_append (by decide : commentMark ∉ [quoteMark]) shown

/-- With strings first, nothing is left of a line that starts with a `#`. -/
theorem text_commentMark (rest : List Char) :
    (maskLine .stringsFirst (commentMark :: rest)).text = [] := by
  have hhide : ∃ shown, hideStrings (commentMark :: rest) = commentMark :: shown := ⟨_, rfl⟩
  obtain ⟨shown, hshown⟩ := hhide
  show cutComment (hideStrings (commentMark :: rest)) = _
  rw [hshown]
  exact cutComment_commentMark [] shown

/-- The type of the leading declaration is the same in a line and in its masked text: up to the
first quote or `#` the two are the same, and what is there stops the rule in both. -/
theorem leadingType_maskLine (line : Line) :
    Rules.leadingType none (maskLine .stringsFirst line).text = Rules.leadingType none line := by
  obtain ⟨front, back, rfl, hquote, hmark, hback⟩ := exists_front line
  rw [text_maskLine_front hquote hmark]
  rcases hback with rfl | ⟨rest, rfl⟩ | ⟨rest, rfl⟩
  · rfl
  · obtain ⟨shown, hshown⟩ := exists_text_quoteMark rest
    rw [hshown, Rules.leadingType_append_stop isStop_quoteMark,
      Rules.leadingType_append_stop isStop_quoteMark]
  · rw [text_commentMark, List.append_nil, Rules.leadingType_append_stop isStop_commentMark]

/-- A declaration in the masked text with only blanks before it has its name at the same column of
the line, behind blanks, `var` and blanks. -/
theorem isDeclarationHead_of_allBlank {line : Line} {f : Found Declaration}
    (hf : f ∈ Rules.declaration.scan (maskLine .stringsFirst line).text)
    (hblank : AllBlank ((maskLine .stringsFirst line).text.take f.column)) :
    (maskLine .stringsFirst line).rawColumn (f.column + f.value.name.offset : Nat) =
        (f.column + f.value.name.offset : Nat) ∧
      IsDeclarationHead (line.take (f.column + f.value.name.offset)) := by
  obtain ⟨before, rest, htext, -, hcol, hrule⟩ := Rule.matchesAt_of_mem_scan hf
  obtain ⟨gap, behind, rfl, hgap, hne, hoffset, -⟩ :=
    Rules.exists_gap_of_declaration? (Rules.declaration?_of_declaration hrule).1
  rw [htext, ← hcol, List.take_left] at hblank
  have hhead : IsDeclarationHead (before ++ ("var".toList ++ gap)) :=
    ⟨before, gap, rfl, hblank, hgap, hne⟩
  have hlen : (before ++ ("var".toList ++ gap)).length = f.column + f.value.name.offset := by
    rw [List.length_append, hcol, hoffset]
  rw [← List.append_assoc, ← List.append_assoc, List.append_assoc before] at htext
  obtain ⟨hfront, hcolumns⟩ :=
    front_of_text_maskLine htext (hhead.notMem (by decide) (by decide))
  rw [← hlen, ← List.prefix_iff_eq_take.1 hfront]
  exact ⟨hcolumns _ (Nat.le_refl _), hhead⟩

/-- A declaration in the masked text whose name stands in the line behind blanks, `var` and blanks
has only blanks before it. -/
theorem allBlank_of_isDeclarationHead {line : Line} {f : Found Declaration} {n : Nat}
    (hf : f ∈ Rules.declaration.scan (maskLine .stringsFirst line).text)
    (hn : (maskLine .stringsFirst line).rawColumn (f.column + f.value.name.offset : Nat) = n)
    (hhead : IsDeclarationHead (line.take n)) :
    AllBlank ((maskLine .stringsFirst line).text.take f.column) := by
  have hle : n ≤ line.length := by
    obtain ⟨hword, hstands⟩ :=
      Rule.captured_of_mem_scan hf fun _ _ h => Rules.declaration_eq_some h
    obtain ⟨c, hc, hline⟩ := standsAt_rawColumn hstands hword.1 hword.quoteMark_notMem
    have := hline.le_length
    omega
  have hquote : quoteMark ∉ line.take n := hhead.notMem (by decide) (by decide)
  have hmark : commentMark ∉ line.take n := hhead.notMem (by decide) (by decide)
  -- the masked text starts as the line does, so the name has the same column in both
  have hfront := text_maskLine_front hquote hmark .stringsFirst (line.drop n)
  rw [List.take_append_drop] at hfront
  have hlen : (line.take n).length = n := List.length_take_of_le hle
  have hsame := (front_of_text_maskLine hfront hquote).2 n (Nat.le_of_eq hlen.symm)
  have hcolumn : f.column + f.value.name.offset = n :=
    Int.ofNat_inj.1 ((rawColumn_inj .stringsFirst line).1 (hn.trans hsame.symm))
  obtain ⟨before, rest, htext, -, hcol, hrule⟩ := Rule.matchesAt_of_mem_scan hf
  obtain ⟨gap, behind, rfl, hgap, -, hoffset, -⟩ :=
    Rules.exists_gap_of_declaration? (Rules.declaration?_of_declaration hrule).1
  have hlen' : (before ++ ("var".toList ++ gap)).length = n := by
    rw [List.length_append, hcol, ← hoffset, hcolumn]
  rw [htext, ← hcol, List.take_left]
  rw [htext, ← List.append_assoc, ← List.append_assoc, List.append_assoc before] at hfront
  obtain ⟨hheads, -⟩ := List.append_inj hfront (hlen'.trans hlen.symm)
  rw [← hheads] at hhead
  exact hhead.allBlank hgap

/-! ## Leading declarations among the symbols -/

/-- A symbol is the leading declaration of line `i`: it is one of the declared variables of the
line, and in the line its name, at column `n`, stands behind blanks, `var` and blanks. -/
structure LeadingDeclaration (i : Nat) (line : Line) (d : Symbol) (n : Nat) : Prop where
  declared : d ∈ Symbols.declarations i (maskLine .stringsFirst line)
  column : d.character = n
  head : IsDeclarationHead (line.take n)

/-- The leading declaration among the symbols of a line is the one at the start of the trimmed
text. -/
theorem leadingDeclaration_iff {i n : Nat} {line : Line} {s : Symbol} :
    LeadingDeclaration i line s n ↔
      ∃ d, Rules.declaration? (trimStart (maskLine .stringsFirst line).text) = some d ∧
        n = indent (maskLine .stringsFirst line).text + d.name.offset ∧
        s = ⟨String.ofList d.name.text, d.typeName.map fun t => String.ofList t.text, i, n⟩ := by
  constructor
  · intro h
    obtain ⟨f, hf, rfl⟩ := List.mem_map.1 h.declared
    have hblank := allBlank_of_isDeclarationHead hf h.column h.head
    have hsame := (isDeclarationHead_of_allBlank hf hblank).1
    obtain ⟨hcol, -, hd⟩ := Rules.mem_scan_declaration_iff.1 ⟨hf, hblank⟩
    have hn : n = f.column + f.value.name.offset := Int.ofNat_inj.1 (h.column.symm.trans hsame)
    exact ⟨f.value, hd, hcol ▸ hn, congrArg (Symbol.mk _ _ _) h.column⟩
  · intro h
    obtain ⟨d, hd, rfl, rfl⟩ := h
    obtain ⟨hf, hblank⟩ := (Rules.mem_scan_declaration_iff
      (f := ⟨indent (maskLine .stringsFirst line).text, d.width, d⟩)).2 ⟨rfl, rfl, hd⟩
    obtain ⟨hsame, hhead⟩ := isDeclarationHead_of_allBlank hf hblank
    exact ⟨List.mem_map.2 ⟨_, hf, congrArg (Symbol.mk _ _ _) hsame⟩, rfl, hhead⟩

/-! ## Unknown types -/

namespace Structure

/-- The unknown types on a line are those of the rule for types. -/
theorem filter_unknownType_check (registry : Registry) (hostNotes : Bool) (lines : List Line)
    (i : Nat) :
    (check registry hostNotes lines).filter (fun f => f.line = i ∧ f.issue.kind = .unknownType) =
      if isSkippable (lines.getD i []) then [] else typeFindings i (lines.getD i []) := by
  refine filter_rule_check (by decide) ?_
  intro hskip
  exact filter_kind_lineFindings registry hostNotes i _ hskip .unknownType

/-- An unknown type is found where the declaration at the start of the trimmed text names one. -/
theorem mem_typeFindings {i : Nat} {line : Line} {f : Finding} :
    f ∈ typeFindings i line ↔
      ∃ d t, Rules.declaration? (trimStart (maskLine .stringsFirst line).text) = some d ∧
        d.typeName = some t ∧ String.ofList t.text ∉ typeNames ∧
        f = ⟨i, (indent (maskLine .stringsFirst line).text + t.offset : Nat),
          (indent (maskLine .stringsFirst line).text + t.offset + t.text.length : Nat),
          .unknownType (String.ofList t.text)⟩ := by
  unfold typeFindings
  constructor
  · intro hf
    split at hf
    · cases hf
    · next width type htype =>
      rw [← leadingType_maskLine, Rules.leadingType_eq_some_iff] at htype
      obtain ⟨d, t, hd, ht, rfl, -⟩ := htype
      dsimp only at hf
      split at hf
      · cases hf
      · next hunknown =>
        exact ⟨d, t, hd, ht, by simpa using hunknown, List.mem_singleton.1 hf⟩
  · intro hf
    obtain ⟨d, t, hd, ht, hunknown, rfl⟩ := hf
    have htype := Rules.leadingType_eq_some_iff.2 ⟨d, t, hd, ht, rfl, rfl⟩
    rw [leadingType_maskLine] at htype
    rw [htype]
    dsimp only
    rw [if_neg (by simpa using hunknown)]
    exact List.mem_singleton_self _

/-- A line has at most one unknown type. -/
theorem length_typeFindings_le (i : Nat) (line : Line) : (typeFindings i line).length ≤ 1 := by
  unfold typeFindings
  split
  · exact Nat.zero_le _
  · dsimp only
    split
    · exact Nat.zero_le _
    · exact Nat.le_refl _

/-- On a line that is not skippable the check finds the unknown types of the rule for types. -/
theorem mem_check_unknownType {registry : Registry} {hostNotes : Bool} {lines : List Line}
    {line : Line} {i : Nat} (hline : lines[i]? = some line) (hvisible : isSkippable line = false)
    {start stop : Int} {type : String} :
    ⟨i, start, stop, .unknownType type⟩ ∈ check registry hostNotes lines ↔
      ⟨i, start, stop, .unknownType type⟩ ∈ typeFindings i line := by
  have hgetD : lines.getD i [] = line := by
    rw [List.getD_eq_getElem?_getD, hline]
    rfl
  have hfilter := filter_unknownType_check registry hostNotes lines i
  rw [hgetD, hvisible] at hfilter
  simp only [Bool.false_eq_true, if_false] at hfilter
  rw [← hfilter, List.mem_filter]
  simp [Issue.kind]

end Structure

/-- **The passes agree on leading declarations.** On a line that takes part, the check reports an
unknown type if and only if the leading declaration among the symbols of the line has that type and
the type is none of the known ones. It reports it once, at a place behind the declared name where
the line has the type. -/
theorem unknown_types_agree (registry : Registry) (hostNotes : Bool) {lines : List Line}
    {line : Line} {i : Nat} (hline : lines[i]? = some line) (hvisible : isSkippable line = false) :
    (∀ type : String,
      (∃ start stop : Int, ⟨i, start, stop, .unknownType type⟩ ∈
        Structure.check registry hostNotes lines) ↔
      type ∉ typeNames ∧ ∃ d n, LeadingDeclaration i line d n ∧ d.type = some type) ∧
    (∀ (start stop : Int) (type : String), ⟨i, start, stop, .unknownType type⟩ ∈
        Structure.check registry hostNotes lines →
      ∀ d n, LeadingDeclaration i line d n → d.type = some type ∧
        ∃ s e : Nat, start = s ∧ stop = e ∧ String.ofList (line.extract s e) = type ∧ n < s) ∧
    ((Structure.check registry hostNotes lines).filter
      fun f => f.line = i ∧ f.issue.kind = .unknownType).length ≤ 1 := by
  refine ⟨?_, ?_, ?_⟩
  · intro type
    simp only [Structure.mem_check_unknownType hline hvisible]
    constructor
    · intro h
      obtain ⟨start, stop, hf⟩ := h
      obtain ⟨d, t, hd, ht, hunknown, heq⟩ := Structure.mem_typeFindings.1 hf
      cases heq
      refine ⟨hunknown, _, _, leadingDeclaration_iff.2 ⟨d, hd, rfl, rfl⟩, ?_⟩
      rw [ht]
      rfl
    · intro h
      obtain ⟨hunknown, s, n, hleading, htype⟩ := h
      obtain ⟨d, hd, rfl, rfl⟩ := leadingDeclaration_iff.1 hleading
      obtain ⟨t, ht, rfl⟩ := Option.map_eq_some_iff.1 htype
      exact ⟨_, _, Structure.mem_typeFindings.2 ⟨d, t, hd, ht, hunknown, rfl⟩⟩
  · intro start stop type hf s n hleading
    rw [Structure.mem_check_unknownType hline hvisible] at hf
    obtain ⟨first, last, hstart, hstop, -, -, hquoted⟩ := Structure.pointsInto_typeFindings hf
    obtain ⟨d, t, hd, ht, -, heq⟩ := Structure.mem_typeFindings.1 hf
    -- there is one declaration at the start of the trimmed text
    obtain ⟨d', hd', rfl, rfl⟩ := leadingDeclaration_iff.1 hleading
    rw [hd, Option.some.injEq] at hd'
    subst hd'
    obtain ⟨-, -, -, -, -, -, hbehind, -⟩ := Rules.exists_gap_of_declaration? hd
    cases heq
    refine ⟨?_, first, last, hstart, hstop, hquoted _ rfl, ?_⟩
    · rw [ht]
      rfl
    · rw [← Int.ofNat_inj.1 hstart]
      exact Nat.add_lt_add_left (hbehind t ht) _
  · rw [Structure.filter_unknownType_check]
    split
    · exact Nat.zero_le _
    · exact Structure.length_typeFindings_le i _

/-- Of the three declarations that this line seems to have, one is in a literal and one in the
comment. -/
theorem unknown_types_agree_around_literal :
    ["if a".toList, "  var total: Money = \"var x: Price\" # var y: Cost".toList][1]? =
      some "  var total: Money = \"var x: Price\" # var y: Cost".toList ∧
    isSkippable "  var total: Money = \"var x: Price\" # var y: Cost".toList = false ∧
    ⟨1, 13, 18, .unknownType "Money"⟩ ∈ Structure.check .empty false
      ["if a".toList, "  var total: Money = \"var x: Price\" # var y: Cost".toList] ∧
    ∃ d n, LeadingDeclaration 1 "  var total: Money = \"var x: Price\" # var y: Cost".toList d n ∧
      d.type = some "Money" := by
  have hline : ["if a".toList, "  var total: Money = \"var x: Price\" # var y: Cost".toList][1]? =
      some "  var total: Money = \"var x: Price\" # var y: Cost".toList := rfl
  have hvisible : isSkippable
      "  var total: Money = \"var x: Price\" # var y: Cost".toList = false := by
    decide +kernel
  have hfound : ⟨1, 13, 18, .unknownType "Money"⟩ ∈ Structure.check .empty false
      ["if a".toList, "  var total: Money = \"var x: Price\" # var y: Cost".toList] := by
    decide +kernel
  have hagree := (unknown_types_agree .empty false hline hvisible).1 "Money"
  exact ⟨hline, hvisible, hfound, (hagree.1 ⟨_, _, hfound⟩).2⟩

end ScriptLint
