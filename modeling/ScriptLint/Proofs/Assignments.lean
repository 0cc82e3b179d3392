import ScriptLint.Proofs.Annotation
import ScriptLint.Proofs.Directives
import ScriptLint.Proofs.Mapping
import ScriptLint.Proofs.Settings

/-!
# Assignments in directives

A directive is a row of assignments with separators between them. What is written as such a row is
read back (`assignments_read_back`): neither the mark in front of it nor the trimming, the cuts at
separators and the cut at the first equals sign take anything away from a key or a value.

The option has two names, and a mapping keeps the assignments to each of them apart: a name stands
at the place where it came up first, with the value that it was given last. So it is not the last
assignment that counts but the last one to the name that came up later
(`last_assignment_of_later_name`). The two are the same unless the first name is taken up again
behind the other one, as in `mixedNames`.
-/

namespace ScriptLint

/-! ## Trimmed texts -/

/-- A text without blanks at its ends. -/
structure IsTrimmed (cs : List Char) : Prop where
  head : cs.head?.any isBlank = false
  last : cs.getLast?.any isBlank = false

/-- Nothing is left of a blank text. -/
theorem trim_of_allBlank {w : List Char} (hw : AllBlank w) : trim w = [] := by
  have hstart : trimStart w = [] := List.dropWhile_eq_nil_iff.2 hw
  rw [trim, hstart]
  rfl

/-- A trimmed text has no blanks at its end. -/
theorem IsTrimmed.trimEnd_eq {cs : List Char} (h : IsTrimmed cs) : trimEnd cs = cs := by
  rcases List.eq_nil_or_concat cs with rfl | ⟨front, c, rfl⟩
  · rfl
  · have hlast := h.last
    rw [List.concat_eq_append] at hlast ⊢
    rw [List.getLast?_concat] at hlast
    exact trimEnd_concat hlast front

/-- Blanks around a trimmed text are all that is trimmed. -/
theorem IsTrimmed.trim_append {cs left right : List Char} (h : IsTrimmed cs) (hleft : AllBlank left)
    (hright : AllBlank right) : trim (left ++ (cs ++ right)) = cs := by
  cases cs with
  | nil => exact trim_of_allBlank (List.forall_mem_append.2 ⟨hleft, hright⟩)
  | cons c cs =>
    have hstart : trimStart (c :: cs ++ right) = c :: cs ++ right :=
      List.dropWhile_cons_of_neg (Bool.not_eq_true _ ▸ h.head)
    rw [trim, trimStart_append hleft, hstart, trimEnd_append hright, h.trimEnd_eq]

/-- Blanks before a trimmed text are removed. -/
theorem IsTrimmed.trim_append_left {cs left : List Char} (h : IsTrimmed cs)
    (hleft : AllBlank left) :
    trim (left ++ cs) = cs := by
  have htrim := h.trim_append hleft (List.forall_mem_nil _)
  rwa [List.append_nil] at htrim

/-- A trimmed text stays as it is. -/
theorem IsTrimmed.trim_eq {cs : List Char} (h : IsTrimmed cs) : trim cs = cs :=
  h.trim_append_left (List.forall_mem_nil _)

/-- A character that is no blank is a trimmed text. -/
theorem isTrimmed_singleton {c : Char} (hc : isBlank c = false) : IsTrimmed [c] := ⟨hc, hc⟩

/-- A text is trimmed if trimmed texts stand at its ends. -/
theorem IsTrimmed.append {front cs : List Char} (hfront : IsTrimmed front) (hne : front ≠ [])
    (middle : List Char) (h : IsTrimmed cs) (hcs : cs ≠ []) :
    IsTrimmed (front ++ (middle ++ cs)) := by
  constructor
  · rw [List.head?_append_of_ne_nil _ hne]
    exact hfront.head
  · rw [← List.append_assoc, List.getLast?_append_of_ne_nil _ hcs]
    exact h.last

instance (cs : List Char) : Decidable (IsTrimmed cs) :=
  decidable_of_iff (cs.head?.any isBlank = false ∧ cs.getLast?.any isBlank = false)
    ⟨fun h => ⟨h.1, h.2⟩, fun h => ⟨h.head, h.last⟩⟩

namespace Directive

/-! ## Written directives -/

/-- A text that can stand in an assignment: there is nothing to trim, and no separator and no line
break in it. -/
structure IsField (cs : List Char) : Prop extends IsTrimmed cs where
  semicolon : ';' ∉ cs
  comma : ',' ∉ cs
  lineBreak : ∀ c ∈ cs, isLineBreak c = false

/-- A key and a value that an assignment can be written for. -/
structure IsAssignable (pair : String × String) : Prop where
  key : IsField pair.1.toList
  key_ne : pair.1.toList ≠ []
  equals : '=' ∉ pair.1.toList
  value : IsField pair.2.toList

instance (cs : List Char) : Decidable (IsField cs) :=
  decidable_of_iff (IsTrimmed cs ∧ ';' ∉ cs ∧ ',' ∉ cs ∧ cs.all (!isLineBreak ·) = true)
    ⟨fun h => ⟨h.1, h.2.1, h.2.2.1, by simpa using h.2.2.2⟩,
      fun h => ⟨h.toIsTrimmed, h.semicolon, h.comma, by simpa using h.lineBreak⟩⟩

instance (pair : String × String) : Decidable (IsAssignable pair) :=
  decidable_of_iff (IsField pair.1.toList ∧ pair.1.toList ≠ [] ∧ '=' ∉ pair.1.toList ∧
      IsField pair.2.toList)
    ⟨fun h => ⟨h.1, h.2.1, h.2.2.1, h.2.2.2⟩, fun h => ⟨h.key, h.key_ne, h.equals, h.value⟩⟩

/-- A semicolon or a comma, with any spaces and tabs around it. -/
def IsSeparator (cs : List Char) : Prop :=
  ∃ before mark after, cs = before ++ mark :: after ∧ (mark = ';' ∨ mark = ',') ∧
    ∀ c ∈ before ++ after, c = ' ' ∨ c = '\t'

/-- An assignment as it is written. -/
def assignmentText (pair : String × String) : List Char := pair.1.toList ++ '=' :: pair.2.toList

/-- Assignments as they are written, all but the first behind their separators. -/
def assignmentsText (first : String × String) (rest : List (List Char × String × String)) :
    List Char :=
  assignmentText first ++ rest.flatMap fun item => item.1 ++ assignmentText item.2

/-- A directive of assignments. -/
def directiveText (first : String × String) (rest : List (List Char × String × String)) :
    List Char :=
  "# @jyro: ".toList ++ assignmentsText first rest

/-- Spaces and tabs are blanks. -/
theorem allBlank_of_spaces {w : List Char} (h : ∀ c ∈ w, c = ' ' ∨ c = '\t') : AllBlank w := by
  intro c hc
  rcases h c hc with rfl | rfl <;> rfl

/-- No line ends within a separator. -/
theorem IsSeparator.lineBreak {cs : List Char} (h : IsSeparator cs) :
    ∀ c ∈ cs, isLineBreak c = false := by
  obtain ⟨before, mark, after, rfl, hmark, hspaces⟩ := h
  have hspaces : ∀ c ∈ before ++ after, isLineBreak c = false := by
    intro c hc
    rcases hspaces c hc with rfl | rfl <;> rfl
  obtain ⟨hbefore, hafter⟩ := List.forall_mem_append.1 hspaces
  refine List.forall_mem_append.2 ⟨hbefore, List.forall_mem_cons.2 ⟨?_, hafter⟩⟩
  rcases hmark with rfl | rfl <;> rfl

/-- Around an assignment, blanks do not matter. -/
theorem assignment?_append {pair : String × String} (h : IsAssignable pair) {left right : List Char}
    (hleft : AllBlank left) (hright : AllBlank right) :
    assignment? (left ++ (assignmentText pair ++ right)) = some (pair.1, .text pair.2) := by
  have hsplit : left ++ (assignmentText pair ++ right) =
      (left ++ pair.1.toList) ++ '=' :: (pair.2.toList ++ right) := by
    simp [assignmentText]
  have hfront : ∀ c ∈ left ++ pair.1.toList, (c != '=') = true := by
    intro c hc
    rw [bne_iff_ne]
    rintro rfl
    rcases List.mem_append.1 hc with hc | hc
    · exact hleft.notMem (by decide) hc
    · exact h.equals hc
  have hkey : trim (left ++ pair.1.toList) = pair.1.toList := h.key.trim_append_left hleft
  have hvalue : trim (pair.2.toList ++ right) = pair.2.toList :=
    h.value.trim_append (List.forall_mem_nil _) hright
  rw [hsplit, assignment?, takeWhile_run hfront rfl, dropWhile_run hfront rfl]
  simp [hkey, hvalue, h.key_ne]

/-- No separator stands inside of an assignment. -/
theorem cutAt_assignmentText {pair : String × String} (h : IsAssignable pair)
    {left right : List Char} (hleft : AllBlank left) (hright : AllBlank right) :
    cutAt (fun c => c == ';' || c == ',') (left ++ (assignmentText pair ++ right)) =
      [left ++ (assignmentText pair ++ right)] := by
  have hmark {c : Char} (hblank : isBlank c = false) (hequals : c ≠ '=') (hkey : c ∉ pair.1.toList)
      (hvalue : c ∉ pair.2.toList) : c ∉ left ++ (assignmentText pair ++ right) := by
    simp only [assignmentText, List.mem_append, List.mem_cons, not_or]
    exact ⟨hleft.notMem hblank, ⟨hkey, hequals, hvalue⟩, hright.notMem hblank⟩
  have hsemicolon : ';' ∉ left ++ (assignmentText pair ++ right) :=
    hmark (by decide) (by decide) h.key.semicolon h.value.semicolon
  have hcomma : ',' ∉ left ++ (assignmentText pair ++ right) :=
    hmark (by decide) (by decide) h.key.comma h.value.comma
  refine cutAt_eq_singleton ?_
  intro c hc
  rw [Bool.or_eq_false_iff, beq_eq_false_iff_ne, beq_eq_false_iff_ne]
  exact ⟨fun heq => hsemicolon (heq ▸ hc), fun heq => hcomma (heq ▸ hc)⟩

/-- An assignment starts with its key and ends with its value, or with the sign between them. -/
theorem IsAssignable.isTrimmed {pair : String × String} (h : IsAssignable pair) :
    IsTrimmed (assignmentText pair) := by
  rw [assignmentText]
  by_cases hvalue : pair.2.toList = []
  · rw [hvalue]
    exact h.key.append h.key_ne [] (isTrimmed_singleton rfl) (List.cons_ne_nil _ _)
  · exact h.key.append h.key_ne ['='] h.value.toIsTrimmed hvalue

section
variable {first : String × String} {rest : List (List Char × String × String)}

/-- The text of assignments starts with the first of them and its separator. -/
theorem assignmentsText_cons (item : List Char × String × String) :
    assignmentsText first (item :: rest) =
      assignmentText first ++ (item.1 ++ assignmentsText item.2 rest) := by
  rw [assignmentsText, List.flatMap_cons, List.append_assoc]
  rfl

/-- Assignments are read back one by one. -/
theorem assignments_assignmentsText (hpairs : ∀ pair ∈ first :: rest.map (·.2), IsAssignable pair)
    (hseparators : ∀ item ∈ rest, IsSeparator item.1) {left : List Char} (hleft : AllBlank left) :
    assignments (left ++ assignmentsText first rest) =
      (first :: rest.map (·.2)).map fun pair => (pair.1, .text pair.2) := by
  induction rest generalizing first left with
  | nil =>
    have hfirst := hpairs first List.mem_cons_self
    have hnone : AllBlank [] := List.forall_mem_nil _
    rw [assignments, assignmentsText, List.flatMap_nil, cutAt_assignmentText hfirst hleft hnone,
      List.filterMap_cons_some (assignment?_append hfirst hleft hnone)]
    rfl
  | cons item rest ih =>
    obtain ⟨separator, next⟩ := item
    obtain ⟨hfirst, hnext⟩ := List.forall_mem_cons.1 hpairs
    obtain ⟨hseparator, hbehind⟩ := List.forall_mem_cons.1 hseparators
    obtain ⟨before, mark, after, rfl, hmark, hspaces⟩ := hseparator
    obtain ⟨hbefore, hafter⟩ := List.forall_mem_append.1 (allBlank_of_spaces hspaces)
    have hcut : (mark == ';' || mark == ',') = true := by
      rcases hmark with rfl | rfl <;> rfl
    have hsplit : left ++ assignmentsText first ((before ++ mark :: after, next) :: rest) =
        (left ++ (assignmentText first ++ before)) ++
          mark :: (after ++ assignmentsText next rest) := by
      simp [assignmentsText_cons]
    rw [hsplit, assignments, cutAt_append_cons hcut, cutAt_assignmentText hfirst hleft hbefore,
      List.singleton_append, List.filterMap_cons_some (assignment?_append hfirst hleft hbefore)]
    exact congrArg _ (ih hnext hbehind hafter)

/-- The text of assignments is not empty. -/
theorem assignmentsText_ne_nil : assignmentsText first rest ≠ [] := by
  simp [assignmentsText, assignmentText]

/-- The text of assignments is trimmed, since its first key and its last value are. -/
theorem isTrimmed_assignmentsText (hpairs : ∀ pair ∈ first :: rest.map (·.2), IsAssignable pair) :
    IsTrimmed (assignmentsText first rest) := by
  induction rest generalizing first with
  | nil =>
    rw [assignmentsText, List.flatMap_nil, List.append_nil]
    exact (hpairs first List.mem_cons_self).isTrimmed
  | cons item rest ih =>
    obtain ⟨hfirst, hnext⟩ := List.forall_mem_cons.1 hpairs
    have hne : assignmentText first ≠ [] := by simp [assignmentText]
    rw [assignmentsText_cons]
    exact hfirst.isTrimmed.append hne item.1 (ih hnext) assignmentsText_ne_nil

/-- What a directive is about is found behind its mark. -/
theorem body?_directiveText (hpairs : ∀ pair ∈ first :: rest.map (·.2), IsAssignable pair) :
    body? (directiveText first rest) = some (assignmentsText first rest) := by
  have hspace : AllBlank [' '] := List.forall_mem_singleton.2 rfl
  -- Whatever is left in front of the assignments, there is nothing to trim but one space.
  have htrimmed {c : Char} (hc : isBlank c = false) (middle : List Char) :
      IsTrimmed ([c] ++ (middle ++ assignmentsText first rest)) :=
    (isTrimmed_singleton hc).append (List.cons_ne_nil _ _) middle (isTrimmed_assignmentsText hpairs)
      assignmentsText_ne_nil
  have hcomment : trim (directiveText first rest) = directiveText first rest :=
    (htrimmed (c := '#') rfl " @jyro: ".toList).trim_eq
  have hmark : mentionsMark (directiveText first rest) = true :=
    mentionsMark_iff.2 ⟨"# ".toList, ": ".toList ++ assignmentsText first rest, rfl⟩
  have hdirective : trim ((directiveText first rest).dropWhile (· == commentMark)) =
      "@jyro: ".toList ++ assignmentsText first rest :=
    (htrimmed (c := '@') rfl "jyro: ".toList).trim_append_left hspace
  have hlower :
      mark.isPrefixOf (lowerFrom [] ("@jyro: ".toList ++ assignmentsText first rest)) = true := rfl
  have hbehind : trim (("@jyro: ".toList ++ assignmentsText first rest).drop mark.length) =
      ": ".toList ++ assignmentsText first rest :=
    (htrimmed (c := ':') rfl [' ']).trim_eq
  have hbody : trim ([' '] ++ assignmentsText first rest) = assignmentsText first rest :=
    (isTrimmed_assignmentsText hpairs).trim_append_left hspace
  rw [body?, hcomment]
  dsimp only
  rw [hmark, hdirective, hlower, hbehind]
  exact congrArg some hbody

/-- A directive stands on one line. -/
theorem isLineBreak_directiveText (hpairs : ∀ pair ∈ first :: rest.map (·.2), IsAssignable pair)
    (hseparators : ∀ item ∈ rest, IsSeparator item.1) :
    ∀ c ∈ directiveText first rest, isLineBreak c = false := by
  have hpair {pair : String × String} (h : IsAssignable pair) :
      ∀ c ∈ assignmentText pair, isLineBreak c = false :=
    List.forall_mem_append.2 ⟨h.key.lineBreak, List.forall_mem_cons.2 ⟨rfl, h.value.lineBreak⟩⟩
  obtain ⟨hfirst, hrest⟩ := List.forall_mem_cons.1 hpairs
  have hmark : ∀ c ∈ "# @jyro: ".toList, isLineBreak c = false := by
    simpa using List.all_eq_true.1 (show "# @jyro: ".toList.all (!isLineBreak ·) = true from rfl)
  refine List.forall_mem_append.2 ⟨hmark, List.forall_mem_append.2 ⟨hpair hfirst, ?_⟩⟩
  intro c hc
  obtain ⟨item, hitem, hc⟩ := List.mem_flatMap.1 hc
  rcases List.mem_append.1 hc with hc | hc
  · exact (hseparators item hitem).lineBreak c hc
  · exact hpair (hrest _ (List.mem_map_of_mem hitem)) c hc

/-- A directive gives the mapping of its assignments. -/
theorem flags_directiveText (hpairs : ∀ pair ∈ first :: rest.map (·.2), IsAssignable pair)
    (hfirst : first.1.toList.head? ≠ some '{') (hseparators : ∀ item ∈ rest, IsSeparator item.1) :
    flags (directiveText first rest) =
      Mapping.ofEntries ((first :: rest.map (·.2)).map fun pair => (pair.1, .text pair.2)) := by
  have hlines : textLines (directiveText first rest) = [directiveText first rest] :=
    textLines_eq_singleton (isLineBreak_directiveText hpairs hseparators) (List.cons_ne_nil _ _)
  have hbodies : bodies (directiveText first rest) = [assignmentsText first rest] := by
    rw [bodies, hlines]
    exact List.filterMap_cons_some (body?_directiveText hpairs)
  have hplain : isJson (assignmentsText first rest) = false := by
    rw [isJson, assignmentsText, assignmentText, List.append_assoc,
      List.head?_append_of_ne_nil _ (hpairs first List.mem_cons_self).key_ne]
    exact beq_eq_false_iff_ne.2 hfirst
  have hread : assignments (assignmentsText first rest) = _ :=
    assignments_assignmentsText hpairs hseparators (List.forall_mem_nil _)
  rw [flags, hbodies, List.flatMap_singleton, settings, hplain, ← hread]
  rfl

/-- **Assignments round-trip.** A directive that is written for keys and values is read back as
their mapping: each key stands at its first place and has its last value. -/
theorem assignments_read_back (hpairs : ∀ pair ∈ first :: rest.map (·.2), IsAssignable pair)
    (hfirst : first.1.toList.head? ≠ some '{') (hseparators : ∀ item ∈ rest, IsSeparator item.1) :
    (flags (directiveText first rest)).map (·.1) = ((first :: rest.map (·.2)).map (·.1)).eraseDups ∧
    ∀ before pair after, first :: rest.map (·.2) = before ++ pair :: after →
      (∀ later ∈ after, later.1 ≠ pair.1) →
        (flags (directiveText first rest)).get? pair.1 = some (.text pair.2) := by
  rw [flags_directiveText hpairs hfirst hseparators]
  constructor
  · rw [Mapping.map_fst_ofEntries, List.map_map]
    rfl
  · intro before pair after hsplit hafter
    rw [hsplit, List.map_append, List.map_cons]
    refine Mapping.get?_ofEntries_append_cons (e := (pair.1, Value.text pair.2)) ?_
    intro entry hentry
    obtain ⟨later, hlater, rfl⟩ := List.mem_map.1 hentry
    exact hafter later hlater

end

/-- A key that is assigned twice, and signs inside of keys and values that mean something
elsewhere. -/
theorem assignments_read_back_with_signs :
    directiveText ("a", "x=#1") [(" ;\t".toList, ":b", "@jyro: \x7b"), (",".toList, "a", "")] =
      "# @jyro: a=x=#1 ;\t:b=@jyro: \x7b,a=".toList ∧
    (flags "# @jyro: a=x=#1 ;\t:b=@jyro: \x7b,a=".toList).map (·.1) = ["a", ":b"] ∧
    (flags "# @jyro: a=x=#1 ;\t:b=@jyro: \x7b,a=".toList).get? "a" = some (.text "") := by
  have hpairs : ∀ pair ∈ [("a", "x=#1"), (":b", "@jyro: \x7b"), ("a", "")], IsAssignable pair := by
    have hall : [("a", "x=#1"), (":b", "@jyro: \x7b"), ("a", "")].all
        (fun pair => decide (IsAssignable pair)) = true := by
      decide +kernel
    intro pair hpair
    simpa using List.all_eq_true.1 hall pair hpair
  have hseparators : ∀ item ∈ [(" ;\t".toList, ":b", "@jyro: \x7b"), (",".toList, "a", "")],
      IsSeparator item.1 := by
    refine List.forall_mem_cons.2 ⟨⟨[' '], ';', ['\t'], rfl, .inl rfl, by simp⟩, ?_⟩
    exact List.forall_mem_singleton.2 ⟨[], ',', [], rfl, .inr rfl, by simp⟩
  obtain ⟨hkeys, hvalues⟩ := assignments_read_back hpairs (by decide) hseparators
  exact ⟨rfl, hkeys, hvalues [("a", "x=#1"), (":b", "@jyro: \x7b")] ("a", "") [] rfl (by simp)⟩

/-! ## The assignment that counts -/

/-- The assignments to the option in the directives of a text, in text order. -/
def optionAssignments (text : List Char) : List (String × Value) :=
  ((bodies text).flatMap assignments).filter fun entry =>
    entry.1 = "warnOnHostFunctions" ∨ entry.1 = "warn_on_host_functions"

/-- Two entries with different names for the option have all of its names. -/
theorem eq_or_eq_of_mem_optionAssignments {text : List Char} {first other entry : String × Value}
    (hfirst : first ∈ optionAssignments text) (hother : other ∈ optionAssignments text)
    (hne : other.1 ≠ first.1) (hentry : entry ∈ optionAssignments text) :
    entry.1 = first.1 ∨ entry.1 = other.1 := by
  have hname {entry : String × Value} (h : entry ∈ optionAssignments text) :
      entry.1 = "warnOnHostFunctions" ∨ entry.1 = "warn_on_host_functions" :=
    of_decide_eq_true (List.mem_filter.1 h).2
  rcases hname hfirst with h₁ | h₁ <;> rcases hname hother with h₂ | h₂ <;>
    rcases hname hentry with h₃ | h₃ <;> simp_all

/-- If all directives are assignments, then their mapping is all that resolving takes over. -/
theorem entries_eq_ofEntries {text : List Char} (h : ∀ body ∈ bodies text, isJson body = false) :
    Options.entries text [] [] = Mapping.ofEntries (optionAssignments text) := by
  have hsettings : (bodies text).flatMap settings = (bodies text).flatMap assignments := by
    refine List.flatMap_congr ?_
    intro body hbody
    rw [settings, h body hbody]
    rfl
  have hentries : Options.entries text [] [] = (flags text).filter fun entry =>
      entry.1 = "warnOnHostFunctions" ∨ entry.1 = "warn_on_host_functions" :=
    congrArg (List.filter _) (List.append_nil _)
  rw [hentries, flags, hsettings]
  exact Mapping.filter_ofEntries
    (fun key => key = "warnOnHostFunctions" ∨ key = "warn_on_host_functions") _

/-- The last entry of the mapping counts. -/
theorem exists_resolve_eq_ok {text : List Char} (hplain : ∀ body ∈ bodies text, isJson body = false)
    (hreadable : ∀ entry ∈ optionAssignments text, IsReadable entry.2) :
    ∃ o, Options.resolve text [] [] = .ok o ∧
      (optionAssignments text = [] → o.warnOnHostFunctions = true) ∧
      ∀ entry, (Mapping.ofEntries (optionAssignments text)).getLast? = some entry →
        StandsFor entry.2 o.warnOnHostFunctions := by
  have hkeys := Options.isKey_of_mem_entries text [] []
  rw [Options.resolve_eq_apply]
  rw [entries_eq_ofEntries hplain] at hkeys ⊢
  have hentries : ∀ entry ∈ Mapping.ofEntries (optionAssignments text), IsReadable entry.2 :=
    fun entry hentry => hreadable entry (Mapping.mem_of_mem_ofEntries hentry)
  cases hlast : (Mapping.ofEntries (optionAssignments text)).getLast? with
  | none =>
    have hnil := List.getLast?_eq_none_iff.1 hlast
    refine ⟨{}, (Options.apply_eq_ok_iff hkeys).2 ⟨hentries, .inl ⟨hnil, rfl⟩⟩, fun _ => rfl, ?_⟩
    intro entry hentry
    cases hentry
  | some last =>
    obtain ⟨b, hb⟩ := hentries last (List.mem_of_getLast? hlast)
    refine ⟨⟨b⟩, (Options.apply_eq_ok_iff hkeys).2 ⟨hentries, .inr ⟨last, hlast, hb⟩⟩, ?_, ?_⟩
    · intro hnil
      rw [hnil] at hlast
      cases hlast
    · intro entry hentry
      cases hentry
      exact hb

/-- **The name that comes up later counts.** If all directives are assignments and give the option
values that can be read, then it is on if none of them is about it. If they all use one name for it,
or if the last one uses another name than the first one, then the last one counts. In general the
last one counts among those that use another name than the first one. -/
theorem last_assignment_of_later_name {text : List Char}
    (hplain : ∀ body ∈ bodies text, isJson body = false)
    (hreadable : ∀ entry ∈ optionAssignments text, IsReadable entry.2) :
    ∃ o, Options.resolve text [] [] = .ok o ∧
      (optionAssignments text = [] → o.warnOnHostFunctions = true) ∧
      (∀ before last, optionAssignments text = before ++ [last] →
        ((∀ earlier ∈ before, earlier.1 = last.1) ∨ ∃ first ∈ before.head?, first.1 ≠ last.1) →
          StandsFor last.2 o.warnOnHostFunctions) ∧
      ∀ first middle entry after, optionAssignments text = first :: middle ++ entry :: after →
        entry.1 ≠ first.1 → (∀ later ∈ after, later.1 = first.1) →
          StandsFor entry.2 o.warnOnHostFunctions := by
  obtain ⟨o, hresolve, hnone, hlast⟩ := exists_resolve_eq_ok hplain hreadable
  have hother : ∀ first middle entry after,
      optionAssignments text = first :: middle ++ entry :: after →
      entry.1 ≠ first.1 → (∀ later ∈ after, later.1 = first.1) →
        StandsFor entry.2 o.warnOnHostFunctions := by
    intro first middle entry after hsplit hne hafter
    refine hlast entry ?_
    have hfirst : first ∈ optionAssignments text := by simp [hsplit]
    have hentry : entry ∈ optionAssignments text := by simp [hsplit]
    rw [hsplit]
    refine Mapping.getLast?_ofEntries_of_two_keys hne hafter ?_
    rw [← hsplit]
    exact fun other => eq_or_eq_of_mem_optionAssignments hfirst hentry hne
  refine ⟨o, hresolve, hnone, ?_, hother⟩
  intro before last hsplit hnames
  rcases hnames with hsame | ⟨first, hfirst, hne⟩
  · refine hlast last ?_
    rw [hsplit]
    exact Mapping.getLast?_ofEntries_of_one_key hsame
  · obtain ⟨middle, rfl⟩ := List.head?_eq_some_iff.1 hfirst
    exact hother first middle last [] hsplit (Ne.symm hne) (List.forall_mem_nil _)

/-- A directive that takes up the first name for the option again behind the other one. -/
def mixedNames : List Char :=
  "# @jyro: warnOnHostFunctions=no; warn_on_host_functions=on; warnOnHostFunctions=off".toList

/-- None of the directives of the script is JSON. -/
theorem isJson_of_mem_bodies_mixedNames : ∀ body ∈ bodies mixedNames, isJson body = false :=
  List.forall_mem_singleton.2 rfl

set_option maxRecDepth 2000 in
/-- The assignments of the script, with both names of the option. -/
theorem optionAssignments_mixedNames :
    optionAssignments mixedNames =
      [("warnOnHostFunctions", .text "no"), ("warn_on_host_functions", .text "on"),
        ("warnOnHostFunctions", .text "off")] := rfl

/-- All values that the script assigns can be read. -/
theorem isReadable_of_mem_mixedNames :
    ∀ entry ∈ optionAssignments mixedNames, IsReadable entry.2 := by
  rw [optionAssignments_mixedNames]
  refine List.forall_mem_cons.2 ⟨⟨false, ?_⟩, List.forall_mem_cons.2 ⟨⟨true, ?_⟩,
    List.forall_mem_singleton.2 ⟨false, ?_⟩⟩⟩ <;>
  exact readBool?_eq_some_iff.1 rfl

/-- The one assignment with the other name counts. -/
theorem last_assignment_of_later_name_mixedNames :
    (∀ body ∈ bodies mixedNames, isJson body = false) ∧
    (∀ entry ∈ optionAssignments mixedNames, IsReadable entry.2) ∧
    ∃ o, Options.resolve mixedNames [] [] = .ok o ∧
      StandsFor (.text "on") o.warnOnHostFunctions := by
  obtain ⟨o, hresolve, -, -, hother⟩ :=
    last_assignment_of_later_name isJson_of_mem_bodies_mixedNames isReadable_of_mem_mixedNames
  exact ⟨isJson_of_mem_bodies_mixedNames, isReadable_of_mem_mixedNames, o, hresolve,
    hother _ [] _ [_] optionAssignments_mixedNames (by decide) (List.forall_mem_singleton.2 rfl)⟩

set_option maxRecDepth 2000 in
/-- The last assignment says that the option is off, but it is on. -/
theorem resolve_mixedNames :
    (∀ body ∈ bodies mixedNames, isJson body = false) ∧
    (∀ entry ∈ optionAssignments mixedNames, IsReadable entry.2) ∧
    (optionAssignments mixedNames).getLast? = some ("warnOnHostFunctions", .text "off") ∧
    StandsFor (.text "off") false ∧ Options.resolve mixedNames [] [] = .ok ⟨true⟩ := by
  refine ⟨isJson_of_mem_bodies_mixedNames, isReadable_of_mem_mixedNames, ?_,
    readBool?_eq_some_iff.1 rfl, rfl⟩
  rw [optionAssignments_mixedNames]
  rfl

end Directive

end ScriptLint
