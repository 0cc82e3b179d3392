import ScriptLint.Proofs.Ordering
import ScriptLint.Proofs.Reordering

/-!
# Writes to paths

A path is written to where names joined by dots stand in front of blanks and one equals sign.
`WriteAt` says so for a masked text: the path is as long as it can be, so that no name and dot stand
before it. The search for writes finds these places and no others (`mem_scan_propertyWrite`). A
match may also start at the second name of a path; but then it ends where the match from the first
name on does (`WriteMatch.overlap`), and the search, which goes from left to right, lists the first
one only.

Over a script the paths that were written to are carried along, and a path belongs to its first
write. `property_symbols_exact` says that the symbols of paths are the first writes in terms of the
masked texts alone, each path once and in the order of the script.
-/

namespace ScriptLint

/-! ## Dotted paths -/

/-- Names joined by dots start as the first of them does, whatever follows. -/
theorem head?_any_intercalate_append {name : List Char} (h : IsName name) (names : List (List Char))
    (cs : List Char) : (['.'].intercalate (name :: names) ++ cs).head?.any isNameStart = true := by
  obtain ⟨hword, hstart⟩ := h
  obtain ⟨c, rest, rfl⟩ := List.exists_cons_of_ne_nil hword.1
  rw [intercalate_dot_cons]
  exact hstart

/-- A dotted path starts with a character of names. -/
theorem IsDottedPath.head?_any_append {path : List Char} (h : IsDottedPath path) (cs : List Char) :
    (path ++ cs).head?.any isNameStart = true := by
  obtain ⟨names, hlen, hnames, rfl⟩ := h
  cases names with
  | nil => simp at hlen
  | cons name names => exact head?_any_intercalate_append (hnames name List.mem_cons_self) names cs

/-- A sign that may stand behind a path and the blanks that follow it, and belongs to neither. -/
structure EndsPath (sign : Char) : Prop where
  notBlank : isBlank sign = false
  notWord : isWordChar sign = false
  notDot : sign ≠ '.'

/-- A path ends before an equals sign. -/
theorem endsPath_equals : EndsPath '=' := ⟨rfl, rfl, by decide⟩

namespace Rules

/-- A word belongs to the run of a path. -/
theorem pathRun_word_append {word : List Char} (h : ∀ c ∈ word, isWordChar c = true)
    (cs : List Char) :
    pathRun (word ++ cs) = word ++ pathRun cs := by
  induction word with
  | nil => rfl
  | cons c word ih =>
    obtain ⟨hc, hword⟩ := List.forall_mem_cons.1 h
    rw [List.cons_append, pathRun, hc, Bool.true_or, if_pos rfl, ih hword, List.cons_append]

/-- A path run goes over names joined by dots. -/
theorem pathRun_intercalate_append {names : List (List Char)} (h : ∀ name ∈ names, IsName name)
    (cs : List Char) :
    pathRun (['.'].intercalate names ++ cs) = ['.'].intercalate names ++ pathRun cs := by
  induction names with
  | nil => rfl
  | cons name names ih =>
    obtain ⟨hname, hnames⟩ := List.forall_mem_cons.1 h
    cases names with
    | nil =>
      rw [List.intercalate_singleton]
      exact pathRun_word_append hname.1.2 cs
    | cons next names =>
      have hnext := head?_any_intercalate_append (hnames next List.mem_cons_self) names cs
      rw [List.intercalate_cons_cons, List.append_assoc, List.append_assoc,
        pathRun_word_append hname.1.2, List.singleton_append, pathRun, hnext, ih hnames]
      simp

/-- A path run ends in front of blanks and a sign behind a path. -/
theorem pathRun_blanks {blanks : List Char} (hblanks : AllBlank blanks) {sign : Char}
    (hsign : EndsPath sign) (rest : List Char) : pathRun (blanks ++ sign :: rest) = [] := by
  cases blanks with
  | nil => simp [pathRun, hsign.notWord, hsign.notDot]
  | cons c blanks =>
    have hc := hblanks c List.mem_cons_self
    have hne : c ≠ '.' := by
      intro heq
      rw [heq] at hc
      cases hc
    simp [pathRun, isWordChar_eq_false_of_isBlank hc, hne]

/-- Names joined by dots in front of blanks and a sign are a whole path run. -/
theorem pathRun_names {names : List (List Char)} (h : ∀ name ∈ names, IsName name)
    {blanks : List Char} (hblanks : AllBlank blanks) {sign : Char} (hsign : EndsPath sign)
    (rest : List Char) :
    pathRun (['.'].intercalate names ++ (blanks ++ sign :: rest)) = ['.'].intercalate names := by
  rw [pathRun_intercalate_append h, pathRun_blanks hblanks hsign, List.append_nil]

/-- A text starts in one way with names joined by dots, blanks and a sign. -/
theorem names_append_inj {names names' : List (List Char)} (h : ∀ name ∈ names, IsName name)
    (h' : ∀ name ∈ names', IsName name) {blanks blanks' : List Char} (hblanks : AllBlank blanks)
    (hblanks' : AllBlank blanks') {sign sign' : Char} (hsign : EndsPath sign)
    (hsign' : EndsPath sign') {rest rest' : List Char}
    (heq : ['.'].intercalate names ++ (blanks ++ sign :: rest) =
      ['.'].intercalate names' ++ (blanks' ++ sign' :: rest')) :
    ['.'].intercalate names = ['.'].intercalate names' ∧ blanks = blanks' ∧
      sign :: rest = sign' :: rest' := by
  have hpaths := congrArg pathRun heq
  rw [pathRun_names h hblanks hsign, pathRun_names h' hblanks' hsign'] at hpaths
  rw [hpaths] at heq
  have hbehind := List.append_cancel_left heq
  have hgaps := congrArg (List.takeWhile isBlank) hbehind
  rw [hblanks.takeWhile_append_cons hsign.notBlank,
    hblanks'.takeWhile_append_cons hsign'.notBlank] at hgaps
  rw [hgaps] at hbehind
  exact ⟨hpaths, hgaps, List.append_cancel_left hbehind⟩

/-- A write is a dotted path that does not start inside a word, blanks and one equals sign. -/
theorem propertyWrite_eq_some_iff {prev : Option Char} {cs path : List Char} {width : Nat} :
    propertyWrite prev cs = some (width, path) ↔ prev.any isWordChar = false ∧ IsDottedPath path ∧
      ∃ blanks rest, cs = path ++ (blanks ++ '=' :: rest) ∧ AllBlank blanks ∧
        rest.head? ≠ some '=' ∧ width = path.length + blanks.length + 1 := by
  refine ⟨fun h => ?_, ?_⟩
  · obtain ⟨hpath, front, back, rfl, hfront⟩ := propertyWrite_eq_some h
    obtain rfl := List.length_eq_zero_iff.1 hfront
    simp only [propertyWrite, Option.ite_none_left_eq_some, Bool.or_eq_true, not_or,
      Bool.not_eq_true, Bool.not_eq_true', Bool.not_eq_false, List.nil_append] at h
    obtain ⟨⟨hprev, -⟩, h⟩ := h
    split at h
    · cases h
    · next c rest htrim =>
      simp only [Option.ite_none_right_eq_some, Option.some.injEq, Prod.mk.injEq, Bool.and_eq_true,
        beq_iff_eq, bne_iff_ne] at h
      obtain ⟨⟨⟨-, rfl⟩, hsingle⟩, rfl, hrun⟩ := h
      rw [hrun, List.drop_left] at htrim ⊢
      obtain ⟨hblanks, hback⟩ := eq_append_of_trimStart_eq htrim
      refine ⟨hprev, hpath, back.takeWhile isBlank, rest, ?_, hblanks, hsingle, rfl⟩
      rw [← hback, List.nil_append]
  · rintro ⟨hprev, hpath, blanks, rest, rfl, hblanks, hsingle, rfl⟩
    have hstart := hpath.head?_any_append (blanks ++ '=' :: rest)
    have hrun : pathRun (path ++ (blanks ++ '=' :: rest)) = path := by
      obtain ⟨names, -, hnames, rfl⟩ := hpath
      exact pathRun_names hnames hblanks endsPath_equals rest
    simp only [propertyWrite, hprev, hstart, hrun, List.drop_left,
      hblanks.trimStart_append_cons endsPath_equals.notBlank,
      hblanks.takeWhile_append_cons endsPath_equals.notBlank]
    simp [hpath.dot_mem, hsingle]

end Rules

/-! ## Writes in a text -/

/-- A text ends in a name, as a whole word, and a dot. -/
def EndsInName (text : List Char) : Prop :=
  ∃ front name, text = front ++ name ++ ['.'] ∧ IsName name ∧ front.getLast?.any isWordChar = false

/-- An assignment follows: blanks and one equals sign, which does not start a comparison. -/
def AssignFollows (text : List Char) : Prop :=
  ∃ blanks rest, text = blanks ++ '=' :: rest ∧ AllBlank blanks ∧ rest.head? ≠ some '='

/-- A path is written to at a column of a text: two or more names joined by dots, each of them a
whole word, with an assignment behind them. The path does not go on to the left. -/
structure WriteAt (text : List Char) (column : Nat) (path : List Char) : Prop where
  isDottedPath : IsDottedPath path
  between : ∃ before after, text = before ++ path ++ after ∧ before.length = column ∧
    before.getLast?.any isWordChar = false ∧ ¬ EndsInName before ∧ AssignFollows after

/-- In a text the rule for writes matches at the column of `f`: the match is a dotted path, blanks
and one equals sign. -/
def WriteMatch (text : List Char) (f : Found (List Char)) : Prop :=
  ∃ before blanks rest, text = before ++ (f.value ++ (blanks ++ '=' :: rest)) ∧
    before.length = f.column ∧ before.getLast?.any isWordChar = false ∧ IsDottedPath f.value ∧
    AllBlank blanks ∧ rest.head? ≠ some '=' ∧ f.width = f.value.length + blanks.length + 1

/-- The rule for writes matches exactly at writes. -/
theorem matchesAt_propertyWrite {text : List Char} {f : Found (List Char)} :
    Rules.propertyWrite.MatchesAt text f ↔ WriteMatch text f := by
  refine ⟨?_, ?_⟩
  · rintro ⟨before, rest, rfl, -, hcol, hrule⟩
    obtain ⟨hprev, hpath, blanks, rest, rfl, hblanks, hsingle, hwidth⟩ :=
      Rules.propertyWrite_eq_some_iff.1 hrule
    exact ⟨before, blanks, rest, rfl, hcol, hprev, hpath, hblanks, hsingle, hwidth⟩
  · rintro ⟨before, blanks, rest, rfl, hcol, hprev, hpath, hblanks, hsingle, hwidth⟩
    exact ⟨before, _, rfl, by simp, hcol, Rules.propertyWrite_eq_some_iff.2
      ⟨hprev, hpath, blanks, rest, rfl, hblanks, hsingle, hwidth⟩⟩

/-- A cut of names joined by dots that is not behind a character of a word is between two names,
behind the dot. -/
theorem endsInName_of_intercalate {names : List (List Char)} (hnames : ∀ name ∈ names, IsName name)
    {front back : List Char} (h : ['.'].intercalate names = front ++ back) (hne : front ≠ [])
    (hlast : front.getLast?.any isWordChar = false) :
    EndsInName front ∧ ∃ names', (∀ name ∈ names', IsName name) ∧
      back = ['.'].intercalate names' := by
  induction names generalizing front with
  | nil => exact absurd (List.append_eq_nil_iff.1 h.symm).1 hne
  | cons name names ih =>
    obtain ⟨hname, htail⟩ := List.forall_mem_cons.1 hnames
    -- the last character of a part of the first name belongs to a word
    have hword {part more : List Char} (hpart : name = part ++ more) (hpart' : part ≠ []) :
        ¬ part.getLast?.any isWordChar = false := by
      obtain ⟨init, c, rfl⟩ := List.eq_nil_or_concat part |>.resolve_left hpart'
      have hc := hname.1.2 c (by simp [hpart])
      simp [hc]
    cases names with
    | nil =>
      rw [List.intercalate_singleton] at h
      exact absurd hlast (hword h hne)
    | cons next names =>
      rw [List.intercalate_cons_cons, List.append_assoc, List.singleton_append] at h
      rcases List.append_eq_append_iff.1 h with ⟨part, rfl, hback⟩ | ⟨part, hpart, -⟩
      · cases part with
        | nil =>
          rw [List.append_nil] at hlast hne
          exact absurd hlast (hword (List.append_nil name).symm hne)
        | cons c part =>
          obtain ⟨rfl, hrest⟩ := List.cons.inj hback
          cases part with
          | nil => exact ⟨⟨[], name, rfl, hname, rfl⟩, next :: names, htail, hrest.symm⟩
          | cons d part =>
            have hlast' : (d :: part).getLast?.any isWordChar = false := by
              rwa [List.getLast?_append_cons, List.getLast?_cons_cons] at hlast
            obtain ⟨⟨front, name', heq, hname', hprev⟩, hnames'⟩ :=
              ih htail hrest (List.cons_ne_nil d part) hlast'
            refine ⟨⟨name ++ '.' :: front, name', by simp [heq], hname', ?_⟩, hnames'⟩
            rw [List.getLast?_append_cons]
            cases front with
            | nil => rfl
            | cons e front => rwa [List.getLast?_cons_cons]
      · exact absurd hlast (hword hpart hne)

/-- What ends in a name and a dot does so behind another text that does not end inside a word. -/
theorem EndsInName.append {text before : List Char} (h : EndsInName text)
    (hbefore : before.getLast?.any isWordChar = false) : EndsInName (before ++ text) := by
  obtain ⟨front, name, rfl, hname, hfront⟩ := h
  refine ⟨before ++ front, name, by simp, hname, ?_⟩
  cases front with
  | nil => rwa [List.append_nil]
  | cons c front => rwa [List.getLast?_append_of_ne_nil _ (List.cons_ne_nil c front)]

/-- A match that starts inside another one starts inside its path: it starts with a letter, which is
neither blank nor the sign. -/
theorem WriteMatch.lt_of_overlap {text : List Char} {f : Found (List Char)} (hf : WriteMatch text f)
    {before path blanks rest : List Char}
    (htext : text = before ++ (path ++ (blanks ++ '=' :: rest)))
    (hblanks : AllBlank blanks)
    (hover : f.column < before.length + path.length + blanks.length + 1) :
    f.column < before.length + path.length := by
  obtain ⟨before', blanks', rest', heq, hcol, -, hpath, -⟩ := hf
  obtain ⟨c, hc, hstart⟩ := (Option.any_eq_true _ _).1
    (hpath.head?_any_append (blanks' ++ '=' :: rest'))
  have hword := isWordChar_of_isNameStart hstart
  have hget : text[f.column]? = some c := by
    rw [heq, List.getElem?_append_right (Nat.le_of_eq hcol), hcol, Nat.sub_self,
      ← List.head?_eq_getElem?, hc]
  rw [htext] at hget
  refine hblanks.lt_of_getElem? hget (isBlank_eq_false_of_isWordChar hword) ?_ hover
  intro hsign
  rw [hsign] at hword
  cases hword

/-- A match that starts inside another one starts at one of the names of its path, and has the rest
of the path, the blanks and the sign with it. -/
theorem WriteMatch.overlap {text : List Char} {f g : Found (List Char)} (hg : WriteMatch text g)
    (hf : WriteMatch text f) (hlt : g.column < f.column) (hover : f.column < g.column + g.width) :
    EndsInName (text.take f.column) ∧ g.column + g.width = f.column + f.width := by
  obtain ⟨before, blanks, rest, htext, hcol, hprev, ⟨names, -, hnames, hvalue⟩, hblanks, -,
    hwidth⟩ := hg
  have hinside := hf.lt_of_overlap htext hblanks (by omega)
  obtain ⟨before', blanks', rest', heq, hcol', hprev', ⟨names', -, hnames', hvalue'⟩, hblanks', -,
    hwidth'⟩ := hf
  obtain ⟨front, rfl, hrest⟩ : ∃ front, before' = before ++ front ∧
      g.value ++ (blanks ++ '=' :: rest) = front ++ (f.value ++ (blanks' ++ '=' :: rest')) := by
    rcases List.append_eq_append_iff.1 (htext.symm.trans heq) with ⟨front, h⟩ | ⟨front, rfl, -⟩
    · exact ⟨front, h⟩
    · rw [List.length_append] at hcol
      omega
  rw [List.length_append] at hcol'
  obtain ⟨back, hcut, hback⟩ : ∃ back, g.value = front ++ back ∧
      f.value ++ (blanks' ++ '=' :: rest') = back ++ (blanks ++ '=' :: rest) := by
    rcases List.append_eq_append_iff.1 hrest with ⟨back, rfl, -⟩ | ⟨back, h⟩
    · rw [List.length_append] at hcol'
      omega
    · exact ⟨back, h⟩
  have hne : front ≠ [] := by
    intro hnil
    rw [hnil, List.length_nil] at hcol'
    omega
  rw [List.getLast?_append_of_ne_nil _ hne] at hprev'
  obtain ⟨hends, behind, hbehind, rfl⟩ :=
    endsInName_of_intercalate hnames (hvalue.symm.trans hcut) hne hprev'
  rw [hvalue'] at hback
  obtain ⟨hpaths, rfl, -⟩ := Rules.names_append_inj hnames' hbehind hblanks' hblanks endsPath_equals
    endsPath_equals hback
  refine ⟨?_, ?_⟩
  · rw [heq, List.take_left' (by rw [List.length_append, hcol'])]
    exact hends.append hprev
  · rw [hwidth, hwidth', hcut, hvalue', hpaths, List.length_append]
    omega

/-- Where a name and a dot stand before a match, another match starts at that name and runs over
it. -/
theorem WriteMatch.exists_left {text : List Char} {f : Found (List Char)} (h : WriteMatch text f)
    (hends : EndsInName (text.take f.column)) :
    ∃ g, WriteMatch text g ∧ g.column < f.column ∧ f.column < g.column + g.width := by
  obtain ⟨before, blanks, rest, rfl, hcol, -, ⟨names, hlen, hnames, hvalue⟩, hblanks, hsingle,
    -⟩ := h
  rw [← hcol, List.take_left] at hends
  obtain ⟨front, name, rfl, hname, hfront⟩ := hends
  have hpath : IsDottedPath (name ++ '.' :: f.value) := by
    refine ⟨name :: names, ?_, List.forall_mem_cons.2 ⟨hname, hnames⟩, ?_⟩
    · rw [List.length_cons]
      omega
    · cases names with
      | nil => simp at hlen
      | cons next names => rw [hvalue, List.intercalate_cons_cons, List.append_assoc]; rfl
  simp only [List.length_append, List.length_singleton] at hcol
  refine ⟨⟨front.length, (name ++ '.' :: f.value).length + blanks.length + 1,
      name ++ '.' :: f.value⟩,
    ⟨front, blanks, rest, by simp, rfl, hfront, hpath, hblanks, hsingle, rfl⟩, ?_, ?_⟩
  · show front.length < f.column
    omega
  · simp only [List.length_append, List.length_cons]
    omega

/-- The search for writes lists a match exactly if no name and dot stand before it. -/
theorem mem_scan_propertyWrite {text : List Char} {f : Found (List Char)} :
    f ∈ Rules.propertyWrite.scan text ↔ WriteMatch text f ∧ ¬ EndsInName (text.take f.column) := by
  refine ⟨fun h => ?_, fun h => ?_⟩
  · have hf := matchesAt_propertyWrite.1 (Rule.matchesAt_of_mem_scan h)
    refine ⟨hf, fun hends => ?_⟩
    obtain ⟨g, hg, hlt, hover⟩ := hf.exists_left hends
    refine absurd (Rule.le_column_of_mem_scan h ?_ (matchesAt_propertyWrite.2 hg) hlt) (by omega)
    intro g g' hg hg' hlt hover
    exact ((matchesAt_propertyWrite.1 hg).overlap (matchesAt_propertyWrite.1 hg') hlt hover).2
  · obtain ⟨hf, hends⟩ := h
    refine Rule.mem_scan_of_matchesAt (matchesAt_propertyWrite.2 hf) ?_
    intro g hg hlt
    by_contra hover
    exact hends ((matchesAt_propertyWrite.1 hg).overlap hf hlt (Nat.lt_of_not_le hover)).1

/-- The writes to a path in a text are what the search for writes lists. -/
theorem writeAt_iff {text : List Char} {column : Nat} {path : List Char} :
    WriteAt text column path ↔
      ∃ f ∈ Rules.propertyWrite.scan text, f.column = column ∧ f.value = path := by
  refine ⟨fun h => ?_, ?_⟩
  · obtain ⟨hpath, before, after, rfl, rfl, hprev, hleft, blanks, rest, rfl, hblanks, hsingle⟩ := h
    refine ⟨⟨before.length, path.length + blanks.length + 1, path⟩,
      mem_scan_propertyWrite.2 ⟨⟨before, blanks, rest, List.append_assoc _ _ _, rfl, hprev, hpath,
        hblanks, hsingle, rfl⟩, ?_⟩, rfl, rfl⟩
    rwa [List.append_assoc, List.take_left]
  · rintro ⟨f, hf, rfl, rfl⟩
    obtain ⟨⟨before, blanks, rest, rfl, hcol, hprev, hpath, hblanks, hsingle, -⟩, hleft⟩ :=
      mem_scan_propertyWrite.1 hf
    rw [← hcol, List.take_left] at hleft
    exact ⟨hpath, before, _, (List.append_assoc _ _ _).symm, hcol, hprev, hleft, blanks, rest, rfl,
      hblanks, hsingle⟩

/-! ## First writes -/

namespace Symbols

/-- The writes on a line; a skippable line has none. -/
def writesOf (line : Line) : List Write :=
  match masked? line with
  | none => []
  | some masked => writes masked

/-- The paths of a line are those of its writes. -/
theorem pathsOf_eq_map (line : Line) : pathsOf line = (writesOf line).map (·.path) := by
  rw [pathsOf, writesOf]
  cases masked? line with
  | none => rfl
  | some masked => rfl

/-- The writes of a line are those that stand in its masked text. -/
theorem mem_writesOf {line : Line} {w : Write} :
    w ∈ writesOf line ↔ isSkippable line = false ∧
      ∃ column path, WriteAt (maskLine .stringsFirst line).text column path ∧
        w = ⟨String.ofList path, (maskLine .stringsFirst line).rawColumn column⟩ := by
  unfold writesOf masked?
  cases isSkippable line with
  | true => simp
  | false =>
    simp only [Bool.false_eq_true, if_false, writes, List.mem_map, writeAt_iff, true_and]
    refine ⟨?_, ?_⟩
    · rintro ⟨f, hf, rfl⟩
      exact ⟨f.column, f.value, ⟨f, hf, rfl, rfl⟩, rfl⟩
    · rintro ⟨column, path, ⟨f, hf, rfl, rfl⟩, rfl⟩
      exact ⟨f, hf, rfl⟩

/-- The writes of a line are found from left to right. -/
theorem pairwise_writesOf (line : Line) : (writesOf line).Pairwise (·.column < ·.column) := by
  unfold writesOf masked?
  cases isSkippable line with
  | true => exact .nil
  | false => exact pairwise_writes line

/-- Of writes from left to right, the first one to each path that was not written to before is
kept. -/
theorem mem_firstWrites {seen : List String} {ws : List Write}
    (h : ws.Pairwise (·.column < ·.column)) {w : Write} :
    w ∈ firstWrites seen ws ↔ w ∈ ws ∧ w.path ∉ seen ∧
      ∀ v ∈ ws, v.path = w.path → w.column ≤ v.column := by
  induction ws generalizing seen with
  | nil => simp [firstWrites]
  | cons v ws ih =>
    obtain ⟨hv, hws⟩ := List.pairwise_cons.1 h
    rw [firstWrites]
    split
    · next hseen =>
      have hne (hw : w.path ∉ seen) : v.path ≠ w.path := fun heq =>
        hw (heq ▸ List.contains_iff_mem.1 hseen)
      rw [ih hws, List.forall_mem_cons, List.mem_cons]
      refine ⟨fun hw => ?_, fun hw => ?_⟩
      · obtain ⟨hw, hpath, hfirst⟩ := hw
        exact ⟨.inr hw, hpath, fun heq => absurd heq (hne hpath), hfirst⟩
      · obtain ⟨hw, hpath, hfirst⟩ := hw
        refine ⟨hw.resolve_left ?_, hpath, hfirst.2⟩
        intro heq
        exact hne hpath (congrArg _ heq.symm)
    · next hseen =>
      have hnew : v.path ∉ seen := fun hmem => hseen (List.contains_iff_mem.2 hmem)
      rw [List.mem_cons, ih hws, List.forall_mem_cons, List.mem_cons, List.mem_cons, not_or]
      refine ⟨fun hw => ?_, fun hw => ?_⟩
      · rcases hw with rfl | ⟨hw, hpath, hfirst⟩
        · exact ⟨.inl rfl, hnew, fun _ => Int.le_refl _, fun u hu _ => Int.le_of_lt (hv u hu)⟩
        · exact ⟨.inr hw, hpath.2, fun heq => absurd heq.symm hpath.1, hfirst⟩
      · obtain ⟨hw, hpath, hfirst⟩ := hw
        refine hw.imp_right fun hw => ⟨hw, ⟨fun heq => ?_, hpath⟩, hfirst.2⟩
        exact absurd (hfirst.1 heq.symm) (Int.not_le.2 (hv w hw))

/-- The symbols of paths on a line are its first writes. -/
theorem mem_filter_isProperty_ofLine {i : Nat} {seen : List String} {line : Line} {s : Symbol} :
    s ∈ (ofLine i seen line).filter (·.isProperty) ↔
      ∃ w ∈ firstWrites seen (writesOf line), s = w.toSymbol i := by
  rw [List.mem_filter, ofLine, writesOf]
  cases masked? line with
  | none => simp [firstWrites]
  | some masked =>
    refine ⟨fun h => ?_, ?_⟩
    · obtain ⟨hs, hproperty⟩ := h
      rcases List.mem_append.1 ((byColumn_perm _).mem_iff.1 hs) with hs | hs
      · rw [isProperty_of_mem_declared hs] at hproperty
        cases hproperty
      · obtain ⟨w, hw, rfl⟩ := List.mem_map.1 hs
        exact ⟨w, hw, rfl⟩
    · rintro ⟨w, hw, rfl⟩
      have hmem := List.mem_map_of_mem (f := Write.toSymbol i) hw
      refine ⟨(byColumn_perm _).mem_iff.2 (List.mem_append_right _ hmem), ?_⟩
      exact isProperty_toSymbol ((firstWrites_sublist _ _).subset hw) i

/-- A write is the first one to its path on line `i`, and the lines before it do not write there. -/
structure IsFirstOf (lines : List Line) (i : Nat) (line : Line) (w : Write) : Prop where
  getElem? : lines[i]? = some line
  mem : w ∈ writesOf line
  leftmost : ∀ v ∈ writesOf line, v.path = w.path → w.column ≤ v.column
  new : ∀ j earlier, lines[j]? = some earlier → j < i → w.path ∉ pathsOf earlier

/-- From line `k` on, the symbols of paths are the first writes to paths that were not written to
before. -/
theorem mem_filter_isProperty_extractFrom {k : Nat} {seen : List String} {lines : List Line}
    {s : Symbol} :
    s ∈ (extractFrom k seen lines).filter (·.isProperty) ↔
      ∃ i line w, IsFirstOf lines i line w ∧ w.path ∉ seen ∧ s = w.toSymbol (k + i) := by
  induction lines generalizing k seen with
  | nil =>
    refine ⟨fun hs => absurd hs List.not_mem_nil, ?_⟩
    rintro ⟨i, line, w, ⟨hline, -, -, -⟩, -⟩
    cases hline
  | cons line lines ih =>
    rw [extractFrom_cons, List.filter_append, List.mem_append, mem_filter_isProperty_ofLine, ih]
    refine ⟨?_, ?_⟩
    · rintro (⟨w, hw, rfl⟩ | ⟨i, line', w, ⟨hline, hw, hleft, hnew⟩, hseen, rfl⟩)
      · obtain ⟨hw, hseen, hleft⟩ := (mem_firstWrites (pairwise_writesOf line)).1 hw
        refine ⟨0, line, w, ⟨rfl, hw, hleft, ?_⟩, hseen, rfl⟩
        intro j _ _ hj
        exact absurd hj (Nat.not_lt_zero j)
      · rw [List.mem_append, not_or] at hseen
        refine ⟨i + 1, line', w, ⟨hline, hw, hleft, ?_⟩, hseen.2, ?_⟩
        · intro j earlier hearlier hj
          cases j with
          | zero =>
            cases hearlier
            exact hseen.1
          | succ j => exact hnew j earlier hearlier (Nat.lt_of_succ_lt_succ hj)
        · rw [Nat.add_right_comm, Nat.add_assoc]
    · rintro ⟨i, line', w, ⟨hline, hw, hleft, hnew⟩, hseen, rfl⟩
      cases i with
      | zero =>
        cases hline
        exact .inl ⟨w, (mem_firstWrites (pairwise_writesOf line)).2 ⟨hw, hseen, hleft⟩, rfl⟩
      | succ i =>
        refine .inr ⟨i, line', w, ⟨hline, hw, hleft, ?_⟩, ?_, ?_⟩
        · intro j earlier hearlier hj
          exact hnew (j + 1) earlier hearlier (Nat.succ_lt_succ hj)
        · rw [List.mem_append, not_or]
          exact ⟨hnew 0 line rfl (Nat.succ_pos i), hseen⟩
        · rw [Nat.add_right_comm, Nat.add_assoc]

/-- The paths of first writes are all the paths that were not written to before. -/
theorem mem_map_path_firstWrites {seen : List String} {ws : List Write} {path : String} :
    path ∈ (firstWrites seen ws).map (·.path) ↔ path ∉ seen ∧ path ∈ ws.map (·.path) := by
  induction ws generalizing seen with
  | nil => simp [firstWrites]
  | cons w ws ih =>
    rw [firstWrites]
    split
    · next hseen =>
      rw [ih, List.map_cons, List.mem_cons]
      refine and_congr_right fun hpath => (or_iff_right ?_).symm
      intro heq
      exact hpath (heq ▸ List.contains_iff_mem.1 hseen)
    · next hseen =>
      have hnew : w.path ∉ seen := fun hmem => hseen (List.contains_iff_mem.2 hmem)
      rw [List.map_cons, List.map_cons, List.mem_cons, List.mem_cons, ih, List.mem_cons, not_or]
      by_cases heq : path = w.path
      · simp [heq, hnew]
      · simp [heq]

/-- The names of the symbols of paths are all the paths that the lines write to and that were not
written to before. -/
theorem mem_map_name_filter_isProperty {k : Nat} {seen : List String} {lines : List Line}
    {path : String} :
    path ∈ ((extractFrom k seen lines).filter (·.isProperty)).map (·.name) ↔
      path ∉ seen ∧ ∃ line ∈ lines, path ∈ pathsOf line := by
  induction lines generalizing k seen with
  | nil => simp [extractFrom]
  | cons line lines ih =>
    have hline : path ∈ ((ofLine k seen line).filter (·.isProperty)).map (·.name) ↔
        path ∉ seen ∧ path ∈ pathsOf line := by
      rw [pathsOf_eq_map, ← mem_map_path_firstWrites]
      simp only [List.mem_map, mem_filter_isProperty_ofLine]
      refine ⟨?_, ?_⟩
      · rintro ⟨s, ⟨w, hw, rfl⟩, rfl⟩
        exact ⟨w, hw, rfl⟩
      · rintro ⟨w, hw, rfl⟩
        exact ⟨w.toSymbol k, ⟨w, hw, rfl⟩, rfl⟩
    rw [extractFrom_cons, List.filter_append, List.map_append, List.mem_append, hline, ih,
      List.mem_append, not_or]
    simp only [List.mem_cons, exists_eq_or_imp]
    tauto

/-! ## First writes of a script -/

/-- Line `i` of a script takes part and writes to a path, at a column of its masked text. -/
def WritesTo (lines : List Line) (i column : Nat) (path : List Char) : Prop :=
  ∃ line, lines[i]? = some line ∧ isSkippable line = false ∧
    WriteAt (maskLine .stringsFirst line).text column path

/-- A write of a script is the first one to its path. -/
structure FirstWrite (lines : List Line) (i column : Nat) (path : List Char) : Prop where
  writesTo : WritesTo lines i column path
  first : ∀ j column', WritesTo lines j column' path → i < j ∨ i = j ∧ column ≤ column'

/-- A script writes to a path at one place first. -/
theorem FirstWrite.unique {lines : List Line} {i i' column column' : Nat} {path : List Char}
    (h : FirstWrite lines i column path) (h' : FirstWrite lines i' column' path) :
    i = i' ∧ column = column' := by
  have hle := h.first i' column' h'.writesTo
  have hge := h'.first i column h.writesTo
  omega

/-- The symbol of a path, at a column of the masked form of a line. -/
def pathSymbol (i : Nat) (line : Line) (column : Nat) (path : List Char) : Symbol where
  name := String.ofList path
  type := some propertyRole
  line := i
  character := (maskLine .stringsFirst line).rawColumn column

/-- The paths of a line are those that it writes to. -/
theorem mem_pathsOf {line : Line} {path : List Char} :
    String.ofList path ∈ pathsOf line ↔ isSkippable line = false ∧
      ∃ column, WriteAt (maskLine .stringsFirst line).text column path := by
  simp only [pathsOf_eq_map, List.mem_map, mem_writesOf]
  refine ⟨?_, ?_⟩
  · rintro ⟨w, ⟨hskip, column, path', hwrite, rfl⟩, hpath⟩
    obtain rfl := String.ofList_injective hpath
    exact ⟨hskip, column, hwrite⟩
  · rintro ⟨hskip, column, hwrite⟩
    exact ⟨_, ⟨hskip, column, path, hwrite, rfl⟩, rfl⟩

/-- Among the writes as the lines list them, the first writes are those in terms of the masked
texts. -/
theorem isFirstOf_iff {lines : List Line} {i column : Nat} {line : Line} {path : List Char}
    (hline : lines[i]? = some line) :
    IsFirstOf lines i line ⟨String.ofList path, (maskLine .stringsFirst line).rawColumn column⟩ ↔
      FirstWrite lines i column path := by
  refine ⟨fun h => ?_, fun h => ?_⟩
  · obtain ⟨hskip, column', path', hwrite, heq⟩ := mem_writesOf.1 h.mem
    obtain ⟨hpath, hcolumn⟩ := Write.mk.inj heq
    obtain rfl := String.ofList_injective hpath
    obtain rfl := Int.ofNat_inj.1 ((rawColumn_inj .stringsFirst line).1 hcolumn)
    refine ⟨⟨line, hline, hskip, hwrite⟩, ?_⟩
    rintro j column' ⟨line', hline', hskip', hwrite'⟩
    rcases Nat.lt_trichotomy i j with hlt | rfl | hgt
    · exact .inl hlt
    · obtain rfl := Option.some.inj (hline.symm.trans hline')
      refine .inr ⟨rfl, ?_⟩
      have hle := h.leftmost _ (mem_writesOf.2 ⟨hskip, column', path, hwrite', rfl⟩) rfl
      exact Int.ofNat_le.1 ((rawColumn_le_iff .stringsFirst line _ _).1 hle)
    · exact absurd (mem_pathsOf.2 ⟨hskip', column', hwrite'⟩) (h.new j line' hline' hgt)
  · obtain ⟨⟨line', hline', hskip, hwrite⟩, hfirst⟩ := h
    obtain rfl := Option.some.inj (hline.symm.trans hline')
    refine ⟨hline, mem_writesOf.2 ⟨hskip, column, path, hwrite, rfl⟩, ?_, ?_⟩
    · intro v hv hpath
      obtain ⟨-, column', path', hwrite', rfl⟩ := mem_writesOf.1 hv
      obtain rfl := String.ofList_injective hpath
      refine (rawColumn_le_iff .stringsFirst line _ _).2 (Int.ofNat_le.2 ?_)
      have := hfirst i column' ⟨line, hline, hskip, hwrite'⟩
      omega
    · intro j earlier hearlier hj hmem
      obtain ⟨hskip', column', hwrite'⟩ := mem_pathsOf.1 hmem
      have := hfirst j column' ⟨earlier, hearlier, hskip', hwrite'⟩
      omega

/-- The symbols of paths are the first writes of the script. -/
theorem mem_filter_isProperty_extract {lines : List Line} {s : Symbol} :
    s ∈ (extract lines).filter (·.isProperty) ↔ ∃ i line column path, lines[i]? = some line ∧
      FirstWrite lines i column path ∧ s = pathSymbol i line column path := by
  rw [extract, mem_filter_isProperty_extractFrom]
  refine ⟨?_, ?_⟩
  · rintro ⟨i, line, w, h, -, rfl⟩
    obtain ⟨-, column, path, -, rfl⟩ := mem_writesOf.1 h.mem
    refine ⟨i, line, column, path, h.getElem?, (isFirstOf_iff h.getElem?).1 h, ?_⟩
    rw [Nat.zero_add]
    rfl
  · rintro ⟨i, line, column, path, hline, h, rfl⟩
    refine ⟨i, line, _, (isFirstOf_iff hline).2 h, List.not_mem_nil, ?_⟩
    rw [Nat.zero_add]
    rfl

/-- Two symbols of paths are never at the same place. -/
theorem pairwise_filter_isProperty (lines : List Line) :
    ((extract lines).filter (·.isProperty)).Pairwise fun s t =>
      s.line < t.line ∨ s.line = t.line ∧ s.character < t.character := by
  have horder : (extract lines).Pairwise (InOrder lines) := pairwise_extractFrom List.drop_zero []
  refine (horder.filter _).imp_of_mem ?_
  intro s t hs _ hst
  refine hst.imp_right fun ⟨hline, hcolumn⟩ => ⟨hline, hcolumn.resolve_right ?_⟩
  -- only a declared variable and a path share a place
  rintro ⟨-, hroot⟩
  have hnot := isProperty_of_mem_declared (List.mem_append_left _ hroot.declared)
  rw [(List.mem_filter.1 hs).2] at hnot
  cases hnot

/-- No two symbols of paths have the same name. -/
theorem nodup_map_name_filter_isProperty (lines : List Line) :
    (((extract lines).filter (·.isProperty)).map (·.name)).Nodup := by
  refine List.pairwise_map.2 ((pairwise_filter_isProperty lines).imp_of_mem ?_)
  intro s t hs ht hst hname
  obtain ⟨i, line, column, path, hline, hfirst, rfl⟩ := mem_filter_isProperty_extract.1 hs
  obtain ⟨i', line', column', path', hline', hfirst', rfl⟩ := mem_filter_isProperty_extract.1 ht
  obtain rfl := String.ofList_injective hname
  obtain ⟨rfl, rfl⟩ := hfirst.unique hfirst'
  obtain rfl := Option.some.inj (hline.symm.trans hline')
  rcases hst with hlt | ⟨-, hlt⟩
  · exact Nat.lt_irrefl _ hlt
  · exact Int.lt_irrefl _ hlt

/-! ## Comparisons -/

/-- The characters that compare two values if an equals sign follows. -/
def comparisonSigns : List Char := ['=', '!', '<', '>']

/-- At a column of a text a path is compared with something. -/
def ComparedAt (text : List Char) (column : Nat) (path : List Char) : Prop :=
  IsDottedPath path ∧ ∃ before blanks sign after,
    text = before ++ (path ++ (blanks ++ sign :: '=' :: after)) ∧ before.length = column ∧
      AllBlank blanks ∧ sign ∈ comparisonSigns

/-- A path ends before the sign of a comparison. -/
theorem endsPath_of_mem_comparisonSigns {sign : Char} (h : sign ∈ comparisonSigns) :
    EndsPath sign := by
  simp only [comparisonSigns, List.mem_cons, List.not_mem_nil, or_false] at h
  rcases h with rfl | rfl | rfl | rfl <;> exact ⟨rfl, rfl, by decide⟩

/-- Where a path is compared nothing is written to. -/
theorem ComparedAt.not_writeAt {text : List Char} {column : Nat} {path : List Char}
    (h : ComparedAt text column path) (path' : List Char) : ¬ WriteAt text column path' := by
  obtain ⟨⟨names, -, hnames, rfl⟩, before, blanks, sign, after, rfl, hlen, hblanks, hsign⟩ := h
  intro hwrite
  obtain ⟨⟨names', -, hnames', rfl⟩, before', after', heq, hlen', -, -, blanks', rest, rfl,
    hblanks', hsingle⟩ := hwrite
  rw [List.append_assoc] at heq
  obtain ⟨-, heq⟩ := List.append_inj heq (hlen.trans hlen'.symm)
  obtain ⟨-, -, hbehind⟩ := Rules.names_append_inj hnames hnames' hblanks hblanks'
    (endsPath_of_mem_comparisonSigns hsign) endsPath_equals heq
  obtain ⟨-, rfl⟩ := List.cons.inj hbehind
  exact hsingle rfl

/-- **The symbols of paths are the first writes.** A script writes to a path where, in the masked
text of a line that takes part, names joined by dots stand in front of one equals sign and the path
does not go on to the left. The symbols of paths are the first writes, each at the place of its path
in the line; they are listed from top to bottom and from left to right, each path once, and every
path that is written to has one. No symbol is placed where a path is compared. -/
theorem property_symbols_exact (lines : List Line) :
    (∀ s, s ∈ (extract lines).filter (·.isProperty) ↔ ∃ i line column path, lines[i]? = some line ∧
      FirstWrite lines i column path ∧ s = pathSymbol i line column path) ∧
    ((extract lines).filter (·.isProperty)).Pairwise (fun s t =>
      s.line < t.line ∨ s.line = t.line ∧ s.character < t.character) ∧
    (((extract lines).filter (·.isProperty)).map (·.name)).Nodup ∧
    (∀ i column path, WritesTo lines i column path →
      String.ofList path ∈ ((extract lines).filter (·.isProperty)).map (·.name)) ∧
    (∀ i line column path, lines[i]? = some line →
      ComparedAt (maskLine .stringsFirst line).text column path →
      ∀ s ∈ (extract lines).filter (·.isProperty),
        ¬ (s.line = i ∧ s.character = (maskLine .stringsFirst line).rawColumn column)) := by
  refine ⟨fun s => mem_filter_isProperty_extract, pairwise_filter_isProperty lines,
    nodup_map_name_filter_isProperty lines, ?_, ?_⟩
  · intro i column path h
    obtain ⟨line, hline, hskip, hwrite⟩ := h
    refine mem_map_name_filter_isProperty.2 ⟨List.not_mem_nil, line, List.mem_of_getElem? hline, ?_⟩
    exact mem_pathsOf.2 ⟨hskip, column, hwrite⟩
  · intro i line column path hline hcompared s hs hplace
    obtain ⟨i', line', column', path', hline', hfirst, rfl⟩ := mem_filter_isProperty_extract.1 hs
    obtain ⟨rfl, hcolumn⟩ := hplace
    obtain rfl := Option.some.inj (hline.symm.trans hline')
    obtain rfl := Int.ofNat_inj.1 ((rawColumn_inj .stringsFirst line).1 hcolumn)
    obtain ⟨line', hline', -, hwrite⟩ := hfirst.writesTo
    obtain rfl := Option.some.inj (hline.symm.trans hline')
    exact hcompared.not_writeAt path' hwrite

/-- A path is compared on one line, and on the next one it is written to behind a literal, compared
and written to again: its symbol stands at the first write. -/
theorem property_symbols_exact_behind_comparison :
    (extract ["if a.b == 1".toList, "f(\"=\") a.b = a.b == 2 a.b = 3".toList]).filter
        (·.isProperty) =
      [⟨"a.b", some "property", 1, 7⟩] ∧
    "a.b" ∈ ((extract ["if a.b == 1".toList, "f(\"=\") a.b = a.b == 2 a.b = 3".toList]).filter
      (·.isProperty)).map (·.name) ∧
    ∀ s ∈ (extract ["if a.b == 1".toList, "f(\"=\") a.b = a.b == 2 a.b = 3".toList]).filter
        (·.isProperty),
      ¬ (s.line = 0 ∧ s.character = 3) := by
  have hpath : IsDottedPath "a.b".toList := by
    have hname {c : Char} (hc : isNameStart c = true) : IsName [c] :=
      ⟨⟨List.cons_ne_nil c [], List.forall_mem_singleton.2 (isWordChar_of_isNameStart hc)⟩, hc⟩
    exact ⟨[['a'], ['b']], Nat.le_refl 2,
      List.forall_mem_cons.2 ⟨hname rfl, List.forall_mem_singleton.2 (hname rfl)⟩, rfl⟩
  have hblank : AllBlank [' '] := List.forall_mem_singleton.2 rfl
  have hexact := property_symbols_exact
    ["if a.b == 1".toList, "f(\"=\") a.b = a.b == 2 a.b = 3".toList]
  refine ⟨by decide +kernel, hexact.2.2.2.1 1 6 "a.b".toList ⟨_, rfl, by decide +kernel, hpath, ?_⟩,
    hexact.2.2.2.2 0 _ 3 "a.b".toList rfl ⟨hpath, "if ".toList, [' '], '=', " 1".toList, ?_⟩⟩
  · refine ⟨"f(\"\") ".toList, " = a.b == 2 a.b = 3".toList, by decide +kernel, rfl,
      by decide +kernel, ?_, [' '], " a.b == 2 a.b = 3".toList, rfl, hblank, by decide +kernel⟩
    rintro ⟨front, name, heq, -⟩
    have hlast := congrArg List.getLast? heq
    simp at hlast
  · exact ⟨by decide +kernel, rfl, hblank, .head _⟩

end Symbols

end ScriptLint
