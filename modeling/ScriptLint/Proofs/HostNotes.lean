import ScriptLint.Proofs.Ordering
import ScriptLint.Proofs.Projection

/-!
# Notes about calls in terms of the line

The check searches for calls in the masked text of a line, up to its first `#`. `HostCallAt` says in
terms of the line itself where a call is found: a whole word that is spelled as the name of a
function of the host, with blanks and an opening parenthesis behind it, before the first `#` and
outside of the literals that are closed before it. The two agree: the search misses no call, because
the match of one call ends before the name of the next one starts (`mem_scan_hostCall`), and masking
takes away nothing else than the contents of these literals (`exists_hostCallAt_of_mem_scan`,
`HostCallAt.exists_mem_scan`).

`host_notes_exact` states this for all lines of a script.
-/

namespace ScriptLint

/-! ## Calls in a text -/

/-- The name of a function of the host: an ASCII capital, and then ASCII letters and digits. -/
structure IsHostName (name : List Char) : Prop where
  capital : name.head?.any isAsciiUpper = true
  alnum : ∀ c ∈ name, isAsciiAlnum c = true

/-- The name of a host function is a word. -/
theorem IsHostName.isWord {name : List Char} (h : IsHostName name) : IsWord name := by
  refine ⟨?_, fun c hc => isWordChar_of_isAlphanum (h.alnum c hc)⟩
  rintro rfl
  simpa using h.capital

/-- A blank is neither a letter nor a digit. -/
theorem isAsciiAlnum_eq_false_of_isBlank {c : Char} (h : isBlank c = true) :
    isAsciiAlnum c = false := by
  have hword := isWordChar_eq_false_of_isBlank h
  by_contra halnum
  simp [isWordChar_of_isAlphanum (Bool.not_eq_false _ ▸ halnum)] at hword

namespace Rules

/-- A call is the name of a function of the host that does not start inside a word, blanks and an
opening parenthesis. -/
theorem hostCall_eq_some_iff {prev : Option Char} {cs name : List Char} {width : Nat} :
    hostCall prev cs = some (width, name) ↔ prev.any isWordChar = false ∧ IsHostName name ∧
      ∃ blanks rest, cs = name ++ (blanks ++ '(' :: rest) ∧ AllBlank blanks ∧
        width = name.length + blanks.length + 1 := by
  refine ⟨fun h => ?_, ?_⟩
  · simp only [hostCall, Option.ite_none_left_eq_some, Option.ite_none_right_eq_some,
      Option.some.injEq, Prod.mk.injEq, Bool.or_eq_true, not_or, Bool.not_eq_true,
      Bool.not_eq_true', Bool.not_eq_false] at h
    obtain ⟨⟨hprev, hcapital⟩, hopen, rfl, rfl⟩ := h
    obtain ⟨rest, hrest⟩ := List.head?_eq_some_iff.1 hopen
    obtain ⟨hblanks, hbehind⟩ := eq_append_of_trimStart_eq hrest
    refine ⟨hprev, ⟨?_, fun c hc => List.mem_takeWhile_imp hc⟩, _, rest, ?_, hblanks, rfl⟩
    · cases cs with
      | nil => cases hcapital
      | cons c cs => rwa [List.takeWhile_cons_of_pos (isAsciiAlnum_of_isAsciiUpper hcapital)]
    · rw [← hbehind, List.takeWhile_append_dropWhile]
  · rintro ⟨hprev, hname, blanks, rest, rfl, hblanks, rfl⟩
    have hstop : (blanks ++ '(' :: rest).head?.any isAsciiAlnum = false :=
      hblanks.head?_any_append (fun _ => isAsciiAlnum_eq_false_of_isBlank) rfl rest
    have hcapital : (name ++ (blanks ++ '(' :: rest)).head?.any isAsciiUpper = true := by
      obtain ⟨c, cs, rfl⟩ := List.exists_cons_of_ne_nil hname.isWord.1
      exact hname.capital
    simp only [hostCall, hprev, hcapital, takeWhile_run hname.alnum hstop,
      dropWhile_run hname.alnum hstop,
      hblanks.trimStart_append_cons (by decide : isBlank '(' = false),
      hblanks.takeWhile_append_cons (by decide : isBlank '(' = false)]
    rfl

end Rules

/-- In a text a function of the host is called at the column of `f`: the match is its name, blanks
and an opening parenthesis. -/
def CallMatch (text : List Char) (f : Found (List Char)) : Prop :=
  ∃ before blanks rest, text = before ++ (f.value ++ (blanks ++ '(' :: rest)) ∧
    before.length = f.column ∧ before.getLast?.any isWordChar = false ∧ IsHostName f.value ∧
    AllBlank blanks ∧ f.width = f.value.length + blanks.length + 1

/-- The rule for calls matches exactly at calls. -/
theorem matchesAt_hostCall {text : List Char} {f : Found (List Char)} :
    Rules.hostCall.MatchesAt text f ↔ CallMatch text f := by
  refine ⟨?_, ?_⟩
  · rintro ⟨before, rest, rfl, -, hcol, hrule⟩
    obtain ⟨hprev, hname, blanks, rest, rfl, hblanks, hwidth⟩ := Rules.hostCall_eq_some_iff.1 hrule
    exact ⟨before, blanks, rest, rfl, hcol, hprev, hname, hblanks, hwidth⟩
  · rintro ⟨before, blanks, rest, rfl, hcol, hprev, hname, hblanks, hwidth⟩
    exact ⟨before, _, rfl, by simp, hcol,
      Rules.hostCall_eq_some_iff.2 ⟨hprev, hname, blanks, rest, rfl, hblanks, hwidth⟩⟩

/-- The match of a call ends before the name of a later call starts. -/
theorem CallMatch.le_column {text : List Char} {f g : Found (List Char)} (hg : CallMatch text g)
    (hf : CallMatch text f) (hlt : g.column < f.column) : g.column + g.width ≤ f.column := by
  obtain ⟨before, blanks, rest, rfl, hcol, hprev, hname, hblanks, hwidth⟩ := hg
  obtain ⟨before', blanks', rest', heq, hcol', hprev', hname', hblanks', -⟩ := hf
  have hword : WordAt (before ++ (g.value ++ (blanks ++ '(' :: rest))) g.column g.value :=
    ⟨before, _, by rw [List.append_assoc], hcol, hname.isWord, hprev,
      hblanks.head?_any_append (fun _ => isWordChar_eq_false_of_isBlank) (by decide) rest⟩
  have hword' : WordAt (before ++ (g.value ++ (blanks ++ '(' :: rest))) f.column f.value :=
    ⟨before', _, by rw [heq, List.append_assoc], hcol', hname'.isWord, hprev',
      hblanks'.head?_any_append (fun _ => isWordChar_eq_false_of_isBlank) (by decide) rest'⟩
  have hbehind := hword.disjoint hword' hlt
  by_contra hover
  -- the name would start among the blanks, or at the parenthesis
  obtain ⟨c, cs, hvalue⟩ := List.exists_cons_of_ne_nil hname'.isWord.1
  have hget : (before ++ (g.value ++ (blanks ++ '(' :: rest)))[f.column]? = some c := by
    rw [heq]
    simp [← hcol', hvalue]
  have hc : isWordChar c = true := hname'.isWord.2 c (hvalue ▸ List.mem_cons_self)
  have hinside := hblanks.lt_of_getElem? hget (isBlank_eq_false_of_isWordChar hc)
    (by rintro rfl; exact absurd hc (by decide)) (by omega)
  omega

/-- The search for calls finds every call. -/
theorem mem_scan_hostCall {text : List Char} {f : Found (List Char)} :
    f ∈ Rules.hostCall.scan text ↔ CallMatch text f := by
  refine ⟨fun h => matchesAt_hostCall.1 (Rule.matchesAt_of_mem_scan h), fun h => ?_⟩
  refine Rule.mem_scan_of_matchesAt (matchesAt_hostCall.2 h) ?_
  intro g hg hlt
  exact (matchesAt_hostCall.1 hg).le_column h hlt

/-! ## Literals before the first mark -/

/-- A column lies in a literal that is closed before the first `#` of a line. -/
def InLiteralBeforeMark (text : Line) (column : Nat) : Prop :=
  ∃ a b, ClosedLiteral text a b ∧ (∀ p, text[p]? = some commentMark → b < p) ∧
    a ≤ column ∧ column ≤ b

/-- The closed literals of a front part of a line are those of the line that are closed in it. -/
theorem closedLiteral_take {text : Line} {n a b : Nat} :
    ClosedLiteral (text.take n) a b ↔ ClosedLiteral text a b ∧ b < n := by
  have htake {m : Nat} (hm : m < n) : (text.take n).take m = text.take m := by
    rw [List.take_take, Nat.min_eq_left (Nat.le_of_lt hm)]
  refine ⟨fun h => ?_, fun ⟨h, hb⟩ => ?_⟩
  · have hb : b < n := by
      obtain ⟨hlt, -⟩ := List.getElem?_eq_some_iff.1 h.closes
      rw [List.length_take] at hlt
      omega
    have ha : a < n := Nat.lt_trans h.lt hb
    refine ⟨⟨?_, ?_, ?_⟩, hb⟩
    · rw [← List.getElem?_take_of_lt ha]; exact h.opens
    · rw [← List.getElem?_take_of_lt hb]; exact h.closes
    · rw [← htake ha, ← htake hb]; exact h.counts
  · have ha : a < n := Nat.lt_trans h.lt hb
    refine ⟨?_, ?_, ?_⟩
    · rw [List.getElem?_take_of_lt ha]; exact h.opens
    · rw [List.getElem?_take_of_lt hb]; exact h.closes
    · rw [htake ha, htake hb]; exact h.counts

/-- In the part of a line before its first `#` lie the literals that are closed before it. -/
theorem inLiteral_cutComment {text : Line} {column : Nat} :
    InLiteral (cutComment text) column ↔ InLiteralBeforeMark text column := by
  have hcut := isCut_commentFirst text
  have htake : cutComment text = text.take (cutComment text).length :=
    List.prefix_iff_eq_take.1 (List.takeWhile_prefix _)
  refine ⟨?_, ?_⟩
  · rintro ⟨a, b, hlit, hle, hle'⟩
    rw [htake] at hlit
    obtain ⟨hlit, hb⟩ := closedLiteral_take.1 hlit
    exact ⟨a, b, hlit, fun p hp => Nat.lt_of_lt_of_le hb (hcut.first p hp), hle, hle'⟩
  · rintro ⟨a, b, hlit, hmark, hle, hle'⟩
    have hb : b < (cutComment text).length := by
      rcases hcut.starts with hstarts | hend
      · exact hmark _ hstarts
      · rw [hend]
        exact (List.getElem?_eq_some_iff.1 hlit.closes).1
    refine ⟨a, b, ?_, hle, hle'⟩
    rw [htake]
    exact closedLiteral_take.2 ⟨hlit, hb⟩

/-! ## Calls in a line and in its masked text -/

/-- A function of the host is called at a column of a line. Its name is a word as a whole, outside
of the literals that are closed before the first `#`, and behind it are blanks and an opening
parenthesis, before the first `#` too. -/
structure HostCallAt (text : Line) (column : Nat) (name : List Char) : Prop where
  isHostName : IsHostName name
  wordAt : WordAt text column name
  outside : ∀ p, column ≤ p → p < column + name.length → ¬ InLiteralBeforeMark text p
  called : ∃ blanks, AllBlank blanks ∧ StandsAt text (column + name.length) (blanks ++ ['(']) ∧
    ∀ p, text[p]? = some commentMark → column + name.length + blanks.length < p

/-- The text of a call has neither quotes nor a `#`. -/
theorem notMem_of_isHostName {name blanks : List Char} (hname : IsHostName name)
    (hblanks : AllBlank blanks) {c : Char} (hword : isWordChar c = false)
    (hblank : isBlank c = false) (hparen : c ≠ '(') : c ∉ name ++ (blanks ++ ['(']) := by
  simp only [List.mem_append, List.mem_singleton, not_or]
  exact ⟨hname.isWord.notMem hword, hblanks.notMem hblank, hparen⟩

/-- The calls found in the masked text are calls in the line, at their raw columns. -/
theorem exists_hostCallAt_of_mem_scan {line : Line} {call : Found (List Char)}
    (h : call ∈ Rules.hostCall.scan (maskLine .commentFirst line).text) :
    ∃ column : Nat, (maskLine .commentFirst line).rawColumn call.column = column ∧
      HostCallAt line column call.value := by
  obtain ⟨before, blanks, rest, htext, hcol, hprev, hname, hblanks, -⟩ := mem_scan_hostCall.1 h
  obtain ⟨ps, hps, hraw⟩ := exists_wellCut (cutComment line)
  have hshows := shows_commentFirst hps hraw
  have hshown : maskedText ps = before ++ (call.value ++ (blanks ++ ['('])) ++ rest := by
    rw [← hshows.text_eq, htext]
    simp
  obtain ⟨qs, rs, rfl, rfl, -⟩ := exists_pieces_of_maskedText hshown (by simp)
    (notMem_of_isHostName hname hblanks (by decide) (by decide) (by decide))
  obtain ⟨hidden, hline⟩ := hshows.raw_prefix
  rw [raw_maskLine] at hline
  have hsplit : line = rawText qs ++ call.value ++ (blanks ++ '(' :: (rawText rs ++ hidden)) := by
    rw [← hline]
    simp
  have hlength : (cutComment line).length =
      (rawText qs).length + (call.value.length + (blanks.length + 1)) + (rawText rs).length := by
    rw [← hraw]
    simp only [rawText_append, rawText_map_plain, List.length_append, List.length_singleton]
  refine ⟨(rawText qs).length, ?_, hname, ?_, ?_, blanks, hblanks, ?_, ?_⟩
  · rw [← hcol]
    refine hshows.rawColumn_eq qs ?_
    rw [List.append_assoc]
    exact List.prefix_append _ _
  · refine ⟨rawText qs, _, hsplit, rfl, hname.isWord, ?_, ?_⟩
    · rwa [← getLast?_maskedText]
    · exact hblanks.head?_any_append (fun _ => isWordChar_eq_false_of_isBlank) (by decide) _
  · intro p hp hlt
    rw [← inLiteral_cutComment, ← hraw]
    refine not_inLiteral_of_plain hps hp ?_
    rw [List.length_append]
    omega
  · exact ⟨rawText qs ++ call.value, rawText rs ++ hidden, by rw [hsplit]; simp, by simp⟩
  · intro p hp
    have := (isCut_commentFirst line).first p hp
    omega

/-- Where a function of the host is called in the line, the call is found in the masked text. -/
theorem HostCallAt.exists_mem_scan {line : Line} {column : Nat} {name : List Char}
    (h : HostCallAt line column name) :
    ∃ call ∈ Rules.hostCall.scan (maskLine .commentFirst line).text, call.value = name ∧
      (maskLine .commentFirst line).rawColumn call.column = column := by
  obtain ⟨blanks, hblanks, ⟨front, rest, hline, hfront⟩, hmark⟩ := h.called
  obtain ⟨before, after, hline', rfl, hword, hprev, -⟩ := h.wordAt
  have hsplit : line = before ++ (name ++ (blanks ++ ['('])) ++ rest := by
    have hends : before ++ name ++ after = front ++ (blanks ++ ['('] ++ rest) := by
      rw [← hline', hline, List.append_assoc front]
    obtain ⟨rfl, -⟩ := List.append_inj hends (by rw [List.length_append, hfront])
    rw [hline]
    simp
  have hcut : cutComment line = before ++ (name ++ (blanks ++ ['('])) ++ cutComment rest := by
    have hnone : commentMark ∉ before ++ (name ++ (blanks ++ ['('])) := by
      intro hmem
      obtain ⟨p, hlt, hget⟩ := List.getElem_of_mem hmem
      have := hmark p (by rw [hsplit, List.getElem?_append_left hlt,
        List.getElem?_eq_getElem hlt, hget])
      simp only [List.length_append, List.length_singleton] at hlt
      omega
    conv_lhs => rw [hsplit]
    exact cutComment_append hnone rest
  obtain ⟨ps, hps, hraw⟩ := exists_wellCut (cutComment line)
  have hshows := shows_commentFirst hps hraw
  have hpos := List.length_pos_iff.2 hword.1
  obtain ⟨qs, rs, rfl, rfl, -⟩ := exists_pieces_of_rawText hps (hraw.trans hcut) (by simp)
    (notMem_of_isHostName h.isHostName hblanks (by decide) (by decide) (by decide))
    (by rw [hraw, inLiteral_cutComment]; exact h.outside _ (Nat.le_refl _) (by omega))
  refine ⟨⟨(maskedText qs).length, name.length + blanks.length + 1, name⟩,
    mem_scan_hostCall.2 ⟨maskedText qs, blanks, maskedText rs, ?_, rfl, ?_,
      h.isHostName, hblanks, rfl⟩,
    rfl, ?_⟩
  · rw [hshows.text_eq, maskedText_append, maskedText_append, maskedText_map_plain]
    simp
  · rwa [getLast?_maskedText]
  · refine hshows.rawColumn_eq qs ?_
    rw [List.append_assoc]
    exact List.prefix_append _ _

/-! ## Notes -/

/-- A call at a column of a line is noted: the line takes part in the check, and the function is
neither a keyword nor one that the registry has by exactly this name. -/
structure HostNote (registry : Registry) (line : Line) (column : Nat)
    (name : List Char) : Prop where
  visible : isSkippable line = false
  callAt : HostCallAt line column name
  notKeyword : String.ofList name ∉ keywords
  notKnown : String.ofList name ∉ registry.names

namespace Structure

/-- A function is left to the host if it is neither reserved nor registered. -/
theorem isHostFunction_iff {registry : Registry} {name : String} :
    isHostFunction registry name = true ↔ name ∉ keywords ∧ name ∉ registry.names := by
  simp [isHostFunction, Registry.hasExact]

section
variable {registry : Registry}

/-- The notes of the rule for calls are about the calls in the line that the host must provide. -/
theorem mem_callFindings {i : Nat} {line : Line} {f : Finding} :
    f ∈ callFindings registry i (maskLine .commentFirst line) ↔
      ∃ (column : Nat) (name : List Char), HostCallAt line column name ∧
        String.ofList name ∉ keywords ∧ String.ofList name ∉ registry.names ∧
        f = ⟨i, column, column + name.length, .hostFunction (String.ofList name)⟩ := by
  simp only [callFindings, List.mem_filterMap, Option.ite_none_right_eq_some, Option.some.injEq,
    isHostFunction_iff]
  refine ⟨?_, ?_⟩
  · rintro ⟨call, hcall, ⟨hkeyword, hknown⟩, rfl⟩
    obtain ⟨column, hcolumn, hcalled⟩ := exists_hostCallAt_of_mem_scan hcall
    exact ⟨column, call.value, hcalled, hkeyword, hknown, by rw [hcolumn]⟩
  · rintro ⟨column, name, hcalled, hkeyword, hknown, rfl⟩
    obtain ⟨call, hcall, rfl, hcolumn⟩ := hcalled.exists_mem_scan
    exact ⟨call, hcall, ⟨hkeyword, hknown⟩, by rw [hcolumn]⟩

/-- The notes of the check are those of the rule for calls on the lines that take part. -/
theorem mem_check_hostFunction {lines : List Line} {f : Finding} :
    f ∈ check registry true lines ∧ f.issue.kind = .hostFunction ↔
      ∃ i line, lines[i]? = some line ∧ isSkippable line = false ∧
        f ∈ callFindings registry i (maskLine .commentFirst line) := by
  rw [check_eq, List.mem_append]
  refine ⟨?_, ?_⟩
  · rintro ⟨hf | hf, hkind⟩
    · obtain ⟨i, line, hline, hf⟩ := mem_flatten_mapIdx.1 hf
      have hvisible := visible_of_mem_lineFindings hf
      have hmem : f ∈ (lineFindings registry true i (stepAt lines i) line).filter
          (·.issue.kind = .hostFunction) := List.mem_filter.2 ⟨hf, decide_eq_true hkind⟩
      rw [filter_kind_lineFindings registry true i _ hvisible .hostFunction] at hmem
      exact ⟨i, line, hline, hvisible, hmem⟩
    · rw [kind_of_mem_openFindings hf] at hkind
      cases hkind
  · rintro ⟨i, line, hline, hvisible, hf⟩
    have hfilter := filter_kind_lineFindings registry true i (stepAt lines i) hvisible .hostFunction
    simp only [if_true] at hfilter
    rw [← hfilter, List.mem_filter, decide_eq_true_eq] at hf
    exact ⟨.inl (mem_flatten_mapIdx.2 ⟨i, line, hline, hf.1⟩), hf.2⟩

/-- The notes of the check come by line and on a line from left to right, without overlap. -/
theorem pairwise_information_check (registry : Registry) (lines : List Line) :
    ((check registry true lines).filter (·.issue.severity = .information)).Pairwise
      (Finding.ByLine Finding.LeftOf) := by
  obtain ⟨found, unclosed, hcheck, hsorted, -, -, hunclosed⟩ :=
    exists_check_eq_append registry true lines
  have hkind {list : List Finding} {f : Finding}
      (hf : f ∈ list.filter (·.issue.severity = .information)) : f.issue.kind = .hostFunction :=
    Issue.kind_of_severity_information (of_decide_eq_true (List.mem_filter.1 hf).2)
  have hnone : unclosed.filter (·.issue.severity = .information) = [] := by
    refine List.eq_nil_iff_forall_not_mem.2 fun f hf => ?_
    have hnote := hkind hf
    rw [hunclosed f (List.mem_filter.1 hf).1] at hnote
    cases hnote
  rw [hcheck, List.filter_append, hnone, List.append_nil]
  refine (hsorted.filter _).imp_of_mem ?_
  rintro f g hf hg (hlt | ⟨hline, hidx | ⟨-, -, hleft⟩⟩)
  · exact .inl hlt
  · rw [hkind hf, hkind hg] at hidx
    exact absurd hidx (Nat.lt_irrefl _)
  · exact .inr ⟨hline, hleft⟩

end

/-- **Notes about calls are exact.** With notes switched on, the check notes the calls that the host
must provide on the lines of a script, in terms of the line: each of them once, ordered by line and
on a line from left to right. -/
theorem host_notes_exact (registry : Registry) (lines : List Line) :
    (∀ f, f ∈ check registry true lines ∧ f.issue.severity = .information ↔
      ∃ (i : Nat) (line : Line) (column : Nat) (name : List Char), lines[i]? = some line ∧
        HostNote registry line column name ∧
        f = ⟨i, column, column + name.length, .hostFunction (String.ofList name)⟩) ∧
    ((check registry true lines).filter (·.issue.severity = .information)).Pairwise
      (Finding.ByLine Finding.LeftOf) := by
  refine ⟨fun f => ⟨?_, ?_⟩, pairwise_information_check registry lines⟩
  · rintro ⟨hf, hnote⟩
    obtain ⟨i, line, hline, hvisible, hf⟩ :=
      mem_check_hostFunction.1 ⟨hf, Issue.kind_of_severity_information hnote⟩
    obtain ⟨column, name, hcalled, hkeyword, hknown, rfl⟩ := mem_callFindings.1 hf
    exact ⟨i, line, column, name, hline, ⟨hvisible, hcalled, hkeyword, hknown⟩, rfl⟩
  · rintro ⟨i, line, column, name, hline, hnote, rfl⟩
    refine ⟨(mem_check_hostFunction.2 ⟨i, line, hline, hnote.visible, ?_⟩).1, rfl⟩
    exact mem_callFindings.2 ⟨column, name, hnote.callAt, hnote.notKeyword, hnote.notKnown, rfl⟩

/-- Of the calls on this line, the nested ones are noted, and neither the one in a literal nor the
one in the comment; a name with an underscore is not cut. -/
example :
    check .empty true ["Foo(Bar (\"Baz(1)\"), My_Qux(2)) # Quux(3)".toList] =
      [⟨0, 0, 3, .hostFunction "Foo"⟩, ⟨0, 4, 7, .hostFunction "Bar"⟩] := by
  decide +kernel

end Structure

end ScriptLint
