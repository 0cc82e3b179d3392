import ScriptLint.Proofs.Scan
import ScriptLint.Source.Mask
import ScriptLint.Source.Rules

/-!
# Where the rules find their pieces

A rule reports pieces of the text it matches: the name and the type of a declaration, the variable
of a loop, a dotted path, the name of a call. Each piece stands in the text at the offset that is
reported for it (`StandsAt`), and it is a word (`IsWord`), or for a write a path of at least two
names (`IsDottedPath`). Neither has quotes in it.
-/

namespace ScriptLint

/-! ## Parts of a text -/

/-- A part stands at a column of a text. -/
def StandsAt (text : List Char) (column : Nat) (part : List Char) : Prop :=
  ∃ front back, text = front ++ part ++ back ∧ front.length = column

/-- A part of a text stands in a longer text behind what was put in front. -/
theorem StandsAt.append_left {text part : List Char} {column : Nat} (h : StandsAt text column part)
    (before : List Char) : StandsAt (before ++ text) (before.length + column) part := by
  obtain ⟨front, back, rfl, rfl⟩ := h
  exact ⟨before ++ front, back, by simp, by simp⟩

/-- A part ends within the text. -/
theorem StandsAt.le_length {text part : List Char} {column : Nat} (h : StandsAt text column part) :
    column + part.length ≤ text.length := by
  obtain ⟨front, back, rfl, rfl⟩ := h
  simp only [List.length_append]
  omega

/-- The characters between the two ends of a part are the part. -/
theorem StandsAt.extract_eq {text part : List Char} {column : Nat} (h : StandsAt text column part) :
    text.extract column (column + part.length) = part := by
  obtain ⟨front, back, rfl, rfl⟩ := h
  rw [List.extract_eq_take_drop, List.append_assoc, List.drop_left, Nat.add_sub_cancel_left,
    List.take_left]

/-! ## Characters of words and names -/

/-- ASCII letters and digits belong to words. -/
theorem isWordChar_of_isAlphanum {c : Char} (h : c.isAlphanum = true) : isWordChar c = true := by
  have hle : c.val ≤ 'z'.val := by
    rcases Bool.or_eq_true_iff.1 h with halpha | hdigit
    · rcases Bool.or_eq_true_iff.1 halpha with hupper | hlower
      · exact UInt32.le_trans (of_decide_eq_true hupper).2 (by decide)
      · exact of_decide_eq_true (Bool.and_eq_true_iff.1 hlower).2
    · exact UInt32.le_trans (of_decide_eq_true (Bool.and_eq_true_iff.1 hdigit).2) (by decide)
  have hlow : c.toNat < 128 := Nat.lt_of_le_of_lt (UInt32.le_iff_toNat_le.1 hle) (by decide)
  rw [isWordChar, if_pos hlow, h, Bool.true_or]

/-- What starts a name belongs to words. -/
theorem isWordChar_of_isNameStart {c : Char} (h : isNameStart c = true) : isWordChar c = true := by
  rcases Bool.or_eq_true_iff.1 h with h | h
  · exact isWordChar_of_isAlphanum (Bool.or_eq_true_iff.2 (.inl h))
  · rw [beq_iff_eq.1 h]; decide

/-- A capital letter is a letter. -/
theorem isAsciiAlnum_of_isAsciiUpper {c : Char} (h : isAsciiUpper c = true) :
    isAsciiAlnum c = true :=
  Bool.or_eq_true_iff.2 (.inl (Bool.or_eq_true_iff.2 (.inl h)))

/-- A word has only characters of words. -/
theorem IsWord.notMem {word : List Char} (h : IsWord word) {c : Char} (hc : isWordChar c = false) :
    c ∉ word := by
  intro hmem
  rw [h.2 c hmem] at hc
  cases hc

/-- No quote is in a word. -/
theorem IsWord.quoteMark_notMem {word : List Char} (h : IsWord word) : quoteMark ∉ word :=
  h.notMem (by decide)

/-- A name: a word that starts with an ASCII letter or an underscore. -/
def IsName (cs : List Char) : Prop := IsWord cs ∧ cs.head?.any isNameStart = true

/-- A dotted path: two or more names with dots between them. -/
def IsDottedPath (path : List Char) : Prop :=
  ∃ names, 2 ≤ names.length ∧ (∀ name ∈ names, IsName name) ∧ path = ['.'].intercalate names

/-- Joining with dots puts a dot in front of every part but the first. -/
theorem intercalate_dot_cons (part : List Char) (parts : List (List Char)) :
    ['.'].intercalate (part :: parts) = part ++ parts.flatMap ('.' :: ·) := by
  induction parts generalizing part with
  | nil => simp
  | cons next parts ih => rw [List.intercalate_cons_cons, ih]; simp

/-- A dotted path has no quotes. -/
theorem IsDottedPath.quoteMark_notMem {path : List Char} (h : IsDottedPath path) :
    quoteMark ∉ path := by
  obtain ⟨names, hlen, hnames, rfl⟩ := h
  match names with
  | [] => simp at hlen
  | name :: names =>
    rw [intercalate_dot_cons, List.mem_append, List.mem_flatMap]
    rintro (hmem | ⟨other, hother, hmem⟩)
    · exact (hnames name List.mem_cons_self).1.quoteMark_notMem hmem
    · rcases List.mem_cons.1 hmem with hmem | hmem
      · exact absurd hmem (by decide)
      · exact (hnames other (List.mem_cons_of_mem _ hother)).1.quoteMark_notMem hmem

/-- A dotted path is not empty. -/
theorem IsDottedPath.ne_nil {path : List Char} (h : IsDottedPath path) : path ≠ [] := by
  obtain ⟨names, hlen, hnames, rfl⟩ := h
  match names with
  | [] => simp at hlen
  | name :: names =>
    rw [intercalate_dot_cons, Ne, List.append_eq_nil_iff, not_and_or]
    exact .inl (hnames name List.mem_cons_self).1.1

/-! ## Words at the front of a text -/

/-- The blanks at the front of a text and what is behind them. -/
theorem takeWhile_append_trimStart (cs : List Char) :
    cs.takeWhile isBlank ++ trimStart cs = cs := List.takeWhile_append_dropWhile

/-- The word characters at the front of a text are a word, unless there are none. -/
theorem isWord_takeWhile {cs : List Char} (h : (cs.takeWhile isWordChar).isEmpty = false) :
    IsWord (cs.takeWhile isWordChar) :=
  ⟨by simpa using h, fun _ hc => List.mem_takeWhile_imp hc⟩

/-- The word characters at the front of a text are a name if its first character can start one. -/
theorem isName_takeWhile {cs : List Char} (h : cs.head?.any isNameStart = true) :
    IsName (cs.takeWhile isWordChar) := by
  cases cs with
  | nil => cases h
  | cons c rest =>
    have hc : isWordChar c = true := isWordChar_of_isNameStart h
    refine ⟨isWord_takeWhile ?_, ?_⟩
    · rw [List.takeWhile_cons_of_pos hc]; rfl
    · rw [List.takeWhile_cons_of_pos hc]; exact h

/-- The word characters at the front of a text stand there. -/
theorem standsAt_takeWhile (p : Char → Bool) (cs : List Char) : StandsAt cs 0 (cs.takeWhile p) :=
  ⟨[], cs.dropWhile p, List.takeWhile_append_dropWhile.symm, rfl⟩

/-- The word behind the blanks at the front of a text stands there. -/
theorem standsAt_trimStart (cs : List Char) :
    StandsAt cs (cs.takeWhile isBlank).length ((trimStart cs).takeWhile isWordChar) := by
  have h := (standsAt_takeWhile isWordChar (trimStart cs)).append_left (cs.takeWhile isBlank)
  rwa [takeWhile_append_trimStart] at h

/-- What follows a text is what is left behind it. -/
theorem afterText?_eq_some_iff {word cs rest : List Char} :
    afterText? word cs = some rest ↔ cs = word ++ rest := by
  unfold afterText?
  constructor
  · intro h
    split at h
    · rename_i hp
      obtain ⟨tail, rfl⟩ := List.isPrefixOf_iff_prefix.1 hp
      cases h
      rw [List.drop_left]
    · cases h
  · rintro rfl
    rw [if_pos (List.isPrefixOf_iff_prefix.2 (List.prefix_append _ _)), List.drop_left]

namespace Rules

/-! ## Declarations -/

/-- The type behind a declared name stands at its offset. -/
theorem typeSuffix?_eq_some {cs : List Char} {t : Capture} (h : typeSuffix? cs = some t) :
    IsWord t.text ∧ StandsAt cs t.offset t.text := by
  unfold typeSuffix? at h
  split at h
  · cases h
  · rename_i c rest hrest
    simp only [Option.ite_none_right_eq_some, Option.some.injEq, Bool.and_eq_true,
      Bool.not_eq_true'] at h
    obtain ⟨⟨-, hword⟩, rfl⟩ := h
    refine ⟨isWord_takeWhile hword, ?_⟩
    have h := ((standsAt_trimStart rest).append_left [c]).append_left (cs.takeWhile isBlank)
    rw [List.singleton_append, ← hrest, takeWhile_append_trimStart, List.length_singleton,
      ← Nat.add_assoc] at h
    exact h

/-- The name and the type of a declaration stand at their offsets. -/
theorem declaration?_eq_some {cs : List Char} {d : Declaration} (h : declaration? cs = some d) :
    (IsWord d.name.text ∧ StandsAt cs d.name.offset d.name.text) ∧
      ∀ t, d.typeName = some t → IsWord t.text ∧ StandsAt cs t.offset t.text := by
  unfold declaration? at h
  split at h
  · cases h
  · rename_i rest hrest
    obtain rfl := afterText?_eq_some_iff.1 hrest
    simp only [Option.ite_none_left_eq_some, Option.some.injEq, Bool.or_eq_true, not_or,
      Bool.not_eq_true] at h
    obtain ⟨⟨-, hword⟩, rfl⟩ := h
    have hname := (standsAt_trimStart rest).append_left "var".toList
    refine ⟨⟨isWord_takeWhile hword, hname⟩, fun t ht => ?_⟩
    obtain ⟨u, hu, rfl⟩ := Option.map_eq_some_iff.1 ht
    obtain ⟨hword', htype⟩ := typeSuffix?_eq_some hu
    refine ⟨hword', ?_⟩
    -- the type is behind the keyword, the blanks and the name
    have h := ((htype.append_left ((trimStart rest).takeWhile isWordChar)).append_left
      (rest.takeWhile isBlank)).append_left "var".toList
    rw [List.takeWhile_append_dropWhile, takeWhile_append_trimStart, ← Nat.add_assoc,
      ← Nat.add_assoc] at h
    exact h

/-- The name of a declaration anywhere in a line stands at its offset. -/
theorem declaration_eq_some {prev : Option Char} {cs : List Char} {width : Nat} {d : Declaration}
    (h : declaration prev cs = some (width, d)) :
    IsWord d.name.text ∧ StandsAt cs d.name.offset d.name.text := by
  simp only [declaration, Option.ite_none_left_eq_some] at h
  obtain ⟨d', hd', heq⟩ := Option.map_eq_some_iff.1 h.2
  cases heq
  exact (declaration?_eq_some hd').1

/-- The type of a leading declaration stands at its offset. -/
theorem leadingType_eq_some {line : List Char} {width : Nat} {t : Capture}
    (h : leadingType none line = some (width, t)) :
    IsWord t.text ∧ StandsAt line t.offset t.text := by
  simp only [leadingType, Option.isSome_none, Bool.false_eq_true, if_false] at h
  split at h
  · rename_i name u hd
    cases h
    obtain ⟨-, htype⟩ := declaration?_eq_some hd
    obtain ⟨hword, htype⟩ := htype u rfl
    have h := htype.append_left (line.takeWhile isBlank)
    rw [takeWhile_append_trimStart] at h
    exact ⟨hword, h⟩
  · cases h

/-- The variable of a loop stands at its offset. -/
theorem loopBinding_eq_some {prev : Option Char} {cs : List Char} {width : Nat} {c : Capture}
    (h : loopBinding prev cs = some (width, c)) : IsWord c.text ∧ StandsAt cs c.offset c.text := by
  unfold loopBinding at h
  split at h
  · cases h
  · split at h
    · cases h
    · rename_i rest hrest
      obtain rfl := afterText?_eq_some_iff.1 hrest
      simp only [Option.ite_none_left_eq_some, Option.ite_none_right_eq_some, Option.some.injEq,
        Prod.mk.injEq, Bool.or_eq_true, not_or, Bool.not_eq_true] at h
      obtain ⟨⟨⟨-, hword⟩, -⟩, -, -, rfl⟩ := h
      exact ⟨isWord_takeWhile hword, (standsAt_trimStart rest).append_left "foreach".toList⟩

/-! ## Writes and calls -/

/-- A path run is a word and then names, each behind a dot. -/
theorem pathRun_eq (cs : List Char) :
    ∃ names : List (List Char), (∀ name ∈ names, IsName name) ∧
      pathRun cs = cs.takeWhile isWordChar ++ names.flatMap ('.' :: ·) := by
  induction cs with
  | nil => exact ⟨[], by simp, rfl⟩
  | cons c cs ih =>
    obtain ⟨names, hnames, heq⟩ := ih
    by_cases hc : isWordChar c = true
    · refine ⟨names, hnames, ?_⟩
      rw [pathRun, if_pos (by rw [hc, Bool.true_or]), List.takeWhile_cons_of_pos hc, heq]
      rfl
    · rw [List.takeWhile_cons_of_neg hc]
      by_cases hdot : (c == '.' && cs.head?.any isNameStart) = true
      · have hname := isName_takeWhile (Bool.and_eq_true_iff.1 hdot).2
        refine ⟨cs.takeWhile isWordChar :: names, ?_, ?_⟩
        · rintro name (_ | ⟨_, hmem⟩)
          exacts [hname, hnames name hmem]
        · rw [pathRun, if_pos (by rw [hdot, Bool.or_true]), heq, List.flatMap_cons,
            beq_iff_eq.1 (Bool.and_eq_true_iff.1 hdot).1]
          rfl
      · refine ⟨[], by simp, ?_⟩
        rw [pathRun, if_neg (by rw [Bool.or_eq_true, not_or]; exact ⟨hc, hdot⟩)]
        rfl

/-- A path run is at the front of its text. -/
theorem standsAt_pathRun (cs : List Char) : StandsAt cs 0 (pathRun cs) := by
  suffices h : ∃ back, cs = pathRun cs ++ back by
    obtain ⟨back, h⟩ := h
    exact ⟨[], back, h, rfl⟩
  induction cs with
  | nil => exact ⟨[], rfl⟩
  | cons c cs ih =>
    rw [pathRun]
    split
    · obtain ⟨back, h⟩ := ih
      exact ⟨back, by rw [List.cons_append, ← h]⟩
    · exact ⟨c :: cs, rfl⟩

/-- The path of a write is a dotted path at the front of its text. -/
theorem propertyWrite_eq_some {prev : Option Char} {cs path : List Char} {width : Nat}
    (h : propertyWrite prev cs = some (width, path)) :
    IsDottedPath path ∧ StandsAt cs 0 path := by
  simp only [propertyWrite, Option.ite_none_left_eq_some, Bool.or_eq_true, not_or,
    Bool.not_eq_true, Bool.not_eq_true', Bool.not_eq_false] at h
  obtain ⟨⟨-, hstart⟩, h⟩ := h
  split at h
  · cases h
  · simp only [Option.ite_none_right_eq_some, Option.some.injEq, Prod.mk.injEq, Bool.and_eq_true,
      List.contains_iff_mem] at h
    obtain ⟨⟨⟨hdot, -⟩, -⟩, -, rfl⟩ := h
    refine ⟨?_, standsAt_pathRun cs⟩
    obtain ⟨names, hnames, heq⟩ := pathRun_eq cs
    refine ⟨cs.takeWhile isWordChar :: names, ?_, ?_, ?_⟩
    · -- without a second name there would be no dot
      cases names with
      | nil =>
        rw [heq, List.flatMap_nil, List.append_nil] at hdot
        exact absurd (List.mem_takeWhile_imp hdot) (by decide)
      | cons name names => simp
    · rintro name (_ | ⟨_, hmem⟩)
      exacts [isName_takeWhile hstart, hnames name hmem]
    · rw [heq, intercalate_dot_cons]

/-- The name of a call is a word at the front of its text. -/
theorem hostCall_eq_some {prev : Option Char} {cs name : List Char} {width : Nat}
    (h : hostCall prev cs = some (width, name)) : IsWord name ∧ StandsAt cs 0 name := by
  simp only [hostCall, Option.ite_none_left_eq_some, Option.ite_none_right_eq_some,
    Option.some.injEq, Prod.mk.injEq, Bool.or_eq_true, not_or, Bool.not_eq_true,
    Bool.not_eq_true', Bool.not_eq_false] at h
  obtain ⟨⟨-, hstart⟩, -, -, rfl⟩ := h
  refine ⟨⟨?_, fun c hc => isWordChar_of_isAlphanum (List.mem_takeWhile_imp hc)⟩,
    standsAt_takeWhile _ _⟩
  cases cs with
  | nil => cases hstart
  | cons c rest =>
    rw [List.takeWhile_cons_of_pos (isAsciiAlnum_of_isAsciiUpper hstart)]
    exact List.cons_ne_nil _ _

end Rules

end ScriptLint
