import ScriptLint.Analysis.Session
import ScriptLint.Proofs.Nesting
import ScriptLint.Proofs.Usage

/-!
# Positions of diagnostics and symbols

Every diagnostic lies within one line of the script and covers at least one character of it; where
its message quotes a name, that name is what it covers. Every symbol stands in its line at its
column. `positions_exact` states both for the whole analysis.

The findings of a line are treated rule by rule (`Finding.PointsInto`). Rules that search a masked
line report columns of the line through `MaskedLine.rawColumn`; `standsAt_rawColumn` says that the
words they report are still there.
-/

namespace ScriptLint

/-! ## What a message quotes -/

/-- The part of the script that the wording of an issue quotes. -/
def Issue.quoted? : Issue → Option String
  | .unknownType name | .hostFunction name | .undefinedVariable name => some name
  | .unclosedString | .strayEnd | .strayLoopControl _ | .unclosedBlock _ => none

/-- The first three characters of the wording of an issue. -/
def Issue.lead : Issue → List Char
  | .unclosedString | .unclosedBlock _ => ['U', 'n', 'c']
  | .strayEnd => ['U', 'n', 'e']
  | .strayLoopControl control => '"' :: control.keyword.toList.take 2
  | .unknownType _ => ['U', 'n', 'k']
  | .hostFunction _ => ['R', 'e', 'f']
  | .undefinedVariable _ => ['U', 'n', 'd']

/-- A text starts as its first part does. -/
theorem take_toList_append (s t u : String) {n : Nat} (h : n ≤ s.toList.length) :
    (s ++ t ++ u).toList.take n = s.toList.take n := by
  rw [String.toList_append, String.toList_append, List.append_assoc,
    List.take_append_of_le_length h]

/-- The message about an unknown type quotes the name and lists the types. -/
theorem Issue.message_unknownType (name : String) : (Issue.unknownType name).message =
    "Unknown type \"" ++ name ++ ("\". Expected: " ++ orList typeNames) := String.append_assoc

/-- The wording of an issue starts with its lead, which tells most kinds of issues apart. -/
theorem Issue.take_message (a : Issue) : a.message.toList.take 3 = a.lead := by
  cases a with
  | unclosedString | strayEnd => decide
  | strayLoopControl control => cases control <;> decide
  | unclosedBlock kind => cases kind <;> decide
  | unknownType name =>
    show _ = ['U', 'n', 'k']
    rw [message_unknownType, take_toList_append _ _ _ (by decide)]
    decide
  | hostFunction name =>
    show _ = ['R', 'e', 'f']
    exact (take_toList_append _ _ _ (by decide)).trans (by decide)
  | undefinedVariable name =>
    show _ = ['U', 'n', 'd']
    exact (take_toList_append _ _ _ (by decide)).trans (by decide)

/-- Texts that agree around a name agree in the name. -/
theorem eq_of_append_append_eq {s t u v : String} (h : s ++ t ++ v = s ++ u ++ v) : t = u := by
  rw [← String.toList_inj] at h ⊢
  simp only [String.toList_append] at h
  exact List.append_cancel_left (List.append_cancel_right h)

/-- Issues with one wording quote the same part of the script. -/
theorem Issue.quoted?_eq_of_message_eq {a b : Issue} {name : String} (h : a.message = b.message)
    (hb : b.quoted? = some name) : a.quoted? = some name := by
  have hlead : a.lead = b.lead := by rw [← take_message, ← take_message, h]
  cases b with
  | unclosedString | strayEnd | strayLoopControl _ | unclosedBlock _ => cases hb
  | unknownType other =>
    cases a with
    | unknownType name' =>
      cases hb
      rw [message_unknownType, message_unknownType] at h
      exact congrArg some (eq_of_append_append_eq h)
    | _ => simp [lead] at hlead
  | hostFunction other =>
    cases a with
    | hostFunction name' =>
      cases hb
      exact congrArg some (eq_of_append_append_eq h)
    | _ => simp [lead] at hlead
  | undefinedVariable other =>
    cases a with
    | undefinedVariable name' =>
      cases hb
      exact congrArg some (eq_of_append_append_eq h)
    | _ => simp [lead] at hlead

/-! ## Findings of a line -/

/-- A finding covers a part of the line, and what its message quotes is that part. -/
def Finding.PointsInto (f : Finding) (line : Line) : Prop :=
  ∃ start stop : Nat, f.start = start ∧ f.stop = stop ∧ start < stop ∧ stop ≤ line.length ∧
    ∀ name, f.issue.quoted? = some name → String.ofList (line.extract start stop) = name

/-- A finding about a name that stands in the line points at it. -/
theorem pointsInto_of_standsAt {line name : List Char} {i column : Nat} {start : Int}
    {issue : Issue} (h : StandsAt line column name) (hne : name ≠ []) (hstart : start = column)
    (hissue : issue.quoted? = some (String.ofList name)) :
    Finding.PointsInto ⟨i, start, start + name.length, issue⟩ line := by
  refine ⟨column, column + name.length, hstart, by rw [hstart]; rfl, ?_, h.le_length, ?_⟩
  · have := List.length_pos_iff.2 hne
    omega
  · intro quoted hquoted
    rw [hissue] at hquoted
    cases hquoted
    rw [h.extract_eq]

/-- A word in a masked text stands in the line at the raw column. -/
theorem standsAt_rawColumn {order : MaskOrder} {line : Line} {column : Nat} {word : List Char}
    (h : StandsAt (maskLine order line).text column word) (hne : word ≠ [])
    (hword : quoteMark ∉ word) :
    ∃ c : Nat, (maskLine order line).rawColumn column = c ∧ StandsAt line c word := by
  obtain ⟨before, after, htext, rfl⟩ := h
  obtain ⟨ps, -, hps⟩ := exists_shows_maskLine order line
  obtain ⟨front, back, hraw, hcol⟩ := hps.raw_eq_of_text_eq htext hne hword
  rw [raw_maskLine] at hraw
  exact ⟨front.length, hcol, front, back, hraw, rfl⟩

/-- What a rule captures at an offset of its match stands in the scanned text. -/
theorem Rule.captured_of_mem_scan {α : Type} {rule : Rule α} {text part : List Char} {f : Found α}
    {offset : Nat} {P : Prop} (h : f ∈ rule.scan text)
    (hpart : ∀ prev rest, rule prev rest = some (f.width, f.value) →
      P ∧ StandsAt rest offset part) :
    P ∧ StandsAt text (f.column + offset) part := by
  obtain ⟨before, rest, rfl, -, hcol, hr⟩ := Rule.matchesAt_of_mem_scan h
  rw [← hcol]
  exact ⟨(hpart _ _ hr).1, (hpart _ _ hr).2.append_left before⟩

/-- A line that takes part in the analysis has a visible character behind its indentation and before
the end of its content. -/
theorem indent_lt_contentEnd {line : Line} (h : isSkippable line = false) :
    indent line < contentEnd line ∧ contentEnd line ≤ line.length := by
  obtain ⟨c, rest, htrim, hc⟩ : ∃ c rest, trimStart line = c :: rest ∧ ¬ isBlank c = true := by
    cases htrim : trimStart line with
    | nil => rw [isSkippable, htrim] at h; cases h
    | cons c rest =>
      have := head?_dropWhile_any isBlank line
      rw [trimStart] at htrim
      rw [htrim] at this
      exact ⟨c, rest, rfl, by simpa using this⟩
  have hline : line = line.takeWhile isBlank ++ c :: rest := by
    rw [← htrim, takeWhile_append_trimStart]
  constructor
  · -- from the right, trimming stops at `c` at the latest
    show (line.takeWhile isBlank).length < (line.reverse.dropWhile isBlank).reverse.length
    conv_rhs => rw [hline]
    rw [List.length_reverse, List.reverse_append, List.reverse_cons, List.append_assoc,
      List.dropWhile_append]
    split
    · rw [List.singleton_append, List.dropWhile_cons_of_neg hc]
      simp
    · simp only [List.length_append, List.length_singleton, List.length_reverse]
      omega
  · show (line.reverse.dropWhile isBlank).reverse.length ≤ line.length
    rw [List.length_reverse]
    exact (List.length_dropWhile_le _ _).trans (by rw [List.length_reverse])

namespace Structure

/-- A finding about the visible part of a line covers a part of it. -/
theorem pointsInto_contentFinding {line : Line} (h : isSkippable line = false) (i : Nat)
    {issue : Issue} (hissue : issue.quoted? = none) :
    (contentFinding i line issue).PointsInto line := by
  refine ⟨indent line, contentEnd line, rfl, rfl, (indent_lt_contentEnd h).1,
    (indent_lt_contentEnd h).2, fun name hname => ?_⟩
  rw [show (contentFinding i line issue).issue = issue from rfl, hissue] at hname
  cases hname

/-- An unclosed string is found inside its line. -/
theorem pointsInto_quoteFindings {i : Nat} {line : Line} {f : Finding}
    (hf : f ∈ quoteFindings i line) : f.PointsInto line := by
  unfold quoteFindings at hf
  split at hf
  · cases hf
  · rename_i hodd
    obtain rfl := List.mem_singleton.1 hf
    refine ⟨0, line.length, rfl, rfl, ?_, Nat.le_refl _, nofun⟩
    -- the empty line has an even number of quotes
    exact List.length_pos_iff.2 fun hnil => hodd (by rw [hnil]; rfl)

/-- A stray `end` is found inside its line. -/
theorem pointsInto_endFindings {i : Nat} {line : Line} {stray : Bool} {f : Finding}
    (hline : isSkippable line = false) (hf : f ∈ endFindings i line stray) :
    f.PointsInto line := by
  unfold endFindings at hf
  split at hf
  · obtain rfl := List.mem_singleton.1 hf
    exact pointsInto_contentFinding hline i rfl
  · cases hf

/-- Stray loop control is found inside its line. -/
theorem pointsInto_loopFindings {i : Nat} {line : Line} {text : List Char} {depth : Int}
    {f : Finding} (hline : isSkippable line = false) (hf : f ∈ loopFindings i line text depth) :
    f.PointsInto line := by
  unfold loopFindings at hf
  split at hf
  · cases hf
  · obtain rfl := List.mem_singleton.1 hf
    exact pointsInto_contentFinding hline i rfl

/-- An unknown type is found where the line names it. -/
theorem pointsInto_typeFindings {i : Nat} {line : Line} {f : Finding}
    (hf : f ∈ typeFindings i line) : f.PointsInto line := by
  unfold typeFindings at hf
  split at hf
  · cases hf
  · rename_i type htype
    obtain ⟨hword, hstands⟩ := Rules.leadingType_eq_some htype
    dsimp only at hf
    split at hf
    · cases hf
    · obtain rfl := List.mem_singleton.1 hf
      exact pointsInto_of_standsAt hstands hword.1 rfl rfl

/-- A call is found where the line names the function. -/
theorem pointsInto_callFindings {registry : Registry} {i : Nat} {line : Line} {f : Finding}
    (hf : f ∈ callFindings registry i (maskLine .commentFirst line)) : f.PointsInto line := by
  obtain ⟨call, hcall, hf⟩ := List.mem_filterMap.1 hf
  simp only [Option.ite_none_right_eq_some, Option.some.injEq] at hf
  obtain ⟨-, rfl⟩ := hf
  obtain ⟨hword, hstands⟩ :=
    Rule.captured_of_mem_scan hcall fun _ _ h => Rules.hostCall_eq_some h
  obtain ⟨c, hc, hline⟩ := standsAt_rawColumn hstands hword.1 hword.quoteMark_notMem
  exact pointsInto_of_standsAt hline hword.1 hc rfl

/-- Every finding on a line is about a part of that line. -/
theorem pointsInto_lineFindings {registry : Registry} {hostNotes : Bool} {i : Nat}
    {step : Nesting.Step} {line : Line} {f : Finding}
    (hf : f ∈ lineFindings registry hostNotes i step line) : f.PointsInto line := by
  unfold lineFindings at hf
  split at hf
  · cases hf
  · rename_i hskip
    have hline : isSkippable line = false := by simpa using hskip
    simp only [List.mem_append] at hf
    rcases hf with (((hf | hf) | hf) | hf) | hf
    · exact pointsInto_quoteFindings hf
    · exact pointsInto_endFindings hline hf
    · exact pointsInto_loopFindings hline hf
    · exact pointsInto_typeFindings hf
    · split at hf
      · exact pointsInto_callFindings hf
      · cases hf

/-- Every structural finding of a script is about a part of its line. -/
theorem pointsInto_check {registry : Registry} {hostNotes : Bool} {lines : List Line} {f : Finding}
    (hf : f ∈ check registry hostNotes lines) :
    ∃ line, lines[f.line]? = some line ∧ f.PointsInto line := by
  rw [check_eq, List.mem_append] at hf
  rcases hf with hf | hf
  · obtain ⟨i, line, hline, hf⟩ := mem_flatten_mapIdx.1 hf
    rw [line_of_mem_lineFindings hf]
    exact ⟨line, hline, pointsInto_lineFindings hf⟩
  · unfold openFindings at hf
    split at hf
    · cases hf
    · rename_i b rest hblocks
      obtain rfl := List.mem_singleton.1 hf
      have hb := openedBefore_of_mem_blocks (hblocks ▸ List.mem_cons_self)
      refine ⟨_, getElem?_of_opensBlock hb.opens.1, 0, b.width, rfl, rfl, ?_, ?_, nofun⟩
      · -- an empty line is skippable and opens nothing
        rw [hb.width_eq]
        refine List.length_pos_iff.2 fun hnil => ?_
        have := hb.opens.1.visible
        rw [hnil] at this
        cases this
      · rw [hb.width_eq]

end Structure

namespace Usage

/-- Every undefined name of a script stands in its line. -/
theorem pointsInto_validate {registry : Registry} {symbols : List Symbol} {lines : List Line}
    {f : Finding} (hf : f ∈ validate registry symbols lines) :
    ∃ line, lines[f.line]? = some line ∧ f.PointsInto line := by
  obtain ⟨i, line, column, name, hline, huse, rfl⟩ := mem_validate.1 hf
  obtain ⟨before, after, heq, hlen, hvar⟩ := huse.variableAt.between
  exact ⟨line, hline, pointsInto_of_standsAt ⟨before, after, heq, hlen⟩ hvar.isName.1.1 rfl rfl⟩

end Usage

/-! ## Symbols -/

/-- A symbol stands in the line at its column, and its name is a word or a dotted path. -/
def Symbol.StandsIn (s : Symbol) (line : Line) : Prop :=
  ∃ column : Nat, s.character = column ∧ StandsAt line column s.name.toList ∧
    (IsWord s.name.toList ∨ IsDottedPath s.name.toList)

namespace Symbols

/-- Inserting a symbol adds it. -/
theorem insertByColumn_perm (s : Symbol) (ss : List Symbol) :
    (insertByColumn s ss).Perm (s :: ss) := by
  induction ss with
  | nil => exact .refl _
  | cons t ts ih =>
    rw [insertByColumn]
    split
    · exact .refl _
    · exact (ih.cons t).trans (.swap s t ts)

/-- Listing symbols by column neither adds nor drops one. -/
theorem byColumn_perm (ss : List Symbol) : (byColumn ss).Perm ss := by
  induction ss with
  | nil => exact .refl _
  | cons s ss ih => exact (insertByColumn_perm s _).trans (ih.cons s)

/-- A first write is a write. -/
theorem firstWrites_sublist (seen : List String) (ws : List Write) :
    (firstWrites seen ws).Sublist ws := by
  induction ws generalizing seen with
  | nil => exact .slnil
  | cons w ws ih =>
    rw [firstWrites]
    split
    · exact (ih seen).cons w
    · exact (ih _).cons_cons w

/-- Every symbol comes from a line that takes part. -/
theorem exists_line_of_mem_extractFrom {index : Nat} {seen : List String} {lines : List Line}
    {s : Symbol} (h : s ∈ extractFrom index seen lines) :
    ∃ k line seen', lines[k]? = some line ∧
      s ∈ ofMasked (index + k) seen' (maskLine .stringsFirst line) := by
  induction lines generalizing index seen with
  | nil => cases h
  | cons line lines ih =>
    have later {seen' : List String} (h : s ∈ extractFrom (index + 1) seen' lines) :
        ∃ k line' seen', (line :: lines)[k]? = some line' ∧
          s ∈ ofMasked (index + k) seen' (maskLine .stringsFirst line') := by
      obtain ⟨k, line', seen'', hline, hs⟩ := ih h
      rw [Nat.add_assoc, Nat.add_comm 1] at hs
      exact ⟨k + 1, line', seen'', hline, hs⟩
    unfold extractFrom masked? at h
    split at h
    · exact later h
    · rename_i masked hmasked
      simp only [Option.ite_none_left_eq_some, Option.some.injEq] at hmasked
      obtain ⟨-, rfl⟩ := hmasked
      rcases List.mem_append.1 h with h | h
      · exact ⟨0, line, seen, rfl, h⟩
      · exact later h

/-- A symbol whose name is captured in the masked line stands in the line. -/
theorem standsIn_of_capture {line : Line} {i column : Nat} {name : List Char} {type : Option String}
    (h : StandsAt (maskLine .stringsFirst line).text column name) (hname : IsWord name ∨
      IsDottedPath name) :
    Symbol.StandsIn ⟨String.ofList name, type, i,
      (maskLine .stringsFirst line).rawColumn column⟩ line := by
  have hquote : quoteMark ∉ name :=
    hname.elim IsWord.quoteMark_notMem IsDottedPath.quoteMark_notMem
  have hne : name ≠ [] := by
    rcases hname with hname | hname
    · exact hname.1
    · exact hname.ne_nil
  obtain ⟨c, hc, hline⟩ := standsAt_rawColumn h hne hquote
  refine ⟨c, hc, ?_, ?_⟩
  · rwa [String.toList_ofList]
  · rwa [String.toList_ofList]

/-- Every symbol of a masked line is captured in its text, as a word or a dotted path. -/
theorem exists_capture_of_mem_ofMasked {m : MaskedLine} {i : Nat} {seen : List String} {s : Symbol}
    (h : s ∈ ofMasked i seen m) :
    ∃ (column : Nat) (name : List Char) (type : Option String),
      s = ⟨String.ofList name, type, i, m.rawColumn column⟩ ∧ StandsAt m.text column name ∧
        (IsWord name ∨ IsDottedPath name) := by
  rw [ofMasked, (byColumn_perm _).mem_iff, List.mem_append, List.mem_append] at h
  rcases h with (h | h) | h
  · obtain ⟨found, hfound, rfl⟩ := List.mem_map.1 h
    obtain ⟨hword, hstands⟩ :=
      Rule.captured_of_mem_scan hfound fun _ _ h => Rules.declaration_eq_some h
    exact ⟨_, _, _, rfl, hstands, .inl hword⟩
  · obtain ⟨found, hfound, rfl⟩ := List.mem_map.1 h
    obtain ⟨hword, hstands⟩ :=
      Rule.captured_of_mem_scan hfound fun _ _ h => Rules.loopBinding_eq_some h
    exact ⟨_, _, _, rfl, hstands, .inl hword⟩
  · obtain ⟨w, hw, rfl⟩ := List.mem_map.1 h
    obtain ⟨found, hfound, rfl⟩ := List.mem_map.1 ((firstWrites_sublist _ _).subset hw)
    obtain ⟨hpath, hstands⟩ :=
      Rule.captured_of_mem_scan hfound fun _ _ h => Rules.propertyWrite_eq_some h
    exact ⟨_, _, _, rfl, hstands, .inr hpath⟩

/-- Every symbol of a masked line stands in the line. -/
theorem standsIn_of_mem_ofMasked {line : Line} {i : Nat} {seen : List String} {s : Symbol}
    (h : s ∈ ofMasked i seen (maskLine .stringsFirst line)) : s.line = i ∧ s.StandsIn line := by
  obtain ⟨column, name, type, rfl, hstands, hname⟩ := exists_capture_of_mem_ofMasked h
  exact ⟨rfl, standsIn_of_capture hstands hname⟩

/-- Every symbol of a script stands in its line. -/
theorem standsIn_of_mem_extract {lines : List Line} {s : Symbol} (h : s ∈ extract lines) :
    ∃ line, lines[s.line]? = some line ∧ s.StandsIn line := by
  obtain ⟨k, line, seen, hline, hs⟩ := exists_line_of_mem_extractFrom h
  obtain ⟨hk, hstands⟩ := standsIn_of_mem_ofMasked hs
  rw [hk, Nat.zero_add]
  exact ⟨line, hline, hstands⟩

end Symbols

/-! ## The whole analysis -/

/-- **Positions are exact.** Every diagnostic of a script starts and ends on one of its lines and
covers a part of that line that is not empty. If its message quotes a name as an undefined variable,
a function of the host or an unknown type, then the part is that name. Every symbol is on a line of
the script, its name is what stands there at its column, and the name is a word or a dotted path of
at least two names. -/
theorem positions_exact (registry : Registry) (options : Options) (lines : List Line) :
    (∀ d ∈ analyze registry options lines, ∃ (i start stop : Nat) (line : Line),
      lines[i]? = some line ∧ d.range = .onLine i start stop ∧ start < stop ∧
        stop ≤ line.length ∧
        ∀ name, (d.message = (Issue.undefinedVariable name).message ∨
            d.message = (Issue.hostFunction name).message ∨
            d.message = (Issue.unknownType name).message) →
          String.ofList (line.extract start stop) = name) ∧
    ∀ s ∈ Symbols.extract lines, ∃ (column : Nat) (line : Line),
      lines[s.line]? = some line ∧ s.character = column ∧
        String.ofList (line.extract column (column + s.name.length)) = s.name ∧
        (IsWord s.name.toList ∨ IsDottedPath s.name.toList) := by
  constructor
  · intro d hd
    obtain ⟨f, hf, rfl⟩ := List.mem_map.1 hd
    obtain ⟨line, hline, start, stop, hstart, hstop, hlt, hle, hquoted⟩ :
        ∃ line, lines[f.line]? = some line ∧ f.PointsInto line := by
      rcases List.mem_append.1 hf with hf | hf
      · exact Structure.pointsInto_check hf
      · exact Usage.pointsInto_validate hf
    refine ⟨f.line, start, stop, line, hline, ?_, hlt, hle, fun name hname => ?_⟩
    · show Range.onLine f.line f.start f.stop = _
      rw [hstart, hstop]
    · rcases hname with h | h | h
      · exact hquoted name (Issue.quoted?_eq_of_message_eq h rfl)
      · exact hquoted name (Issue.quoted?_eq_of_message_eq h rfl)
      · exact hquoted name (Issue.quoted?_eq_of_message_eq h rfl)
  · intro s hs
    obtain ⟨line, hline, column, hcol, hstands, hname⟩ := Symbols.standsIn_of_mem_extract hs
    refine ⟨column, line, hline, hcol, ?_, hname⟩
    rw [← String.length_toList, hstands.extract_eq, String.ofList_toList]

/-- The diagnostic of a name behind a literal that holds a `#` covers that name. -/
theorem positions_exact_behind_literal :
    ∃ d ∈ analyze .empty ⟨false⟩ ["f(\"a#b\") + y # z".toList],
      d.message = (Issue.undefinedVariable "y").message ∧
      ∃ (i start stop : Nat) (line : Line), ["f(\"a#b\") + y # z".toList][i]? = some line ∧
        d.range = .onLine i start stop ∧ String.ofList (line.extract start stop) = "y" := by
  have hmem : Finding.toDiagnostic ⟨0, 11, 12, .undefinedVariable "y"⟩ ∈
      analyze .empty ⟨false⟩ ["f(\"a#b\") + y # z".toList] := by decide +kernel
  obtain ⟨i, start, stop, line, hline, hrange, -, -, hname⟩ := (positions_exact _ _ _).1 _ hmem
  exact ⟨_, hmem, rfl, i, start, stop, line, hline, hrange, hname "y" (.inl rfl)⟩

end ScriptLint
