import Mathlib.Data.List.Basic
import ScriptLint.Command.Console
import ScriptLint.Proofs.Mask

/-!
# What the console shows

The console shows a text tag by tag. Tags are kept, and of all else a text loses two things: cursor
controls, and each backslash that stands before a bracket at which no tag starts (`unescaped`).
Emoji codes are replaced, whatever the table of codes is. So a text without codes is shown without
its escapes (`shown_of_noCode`), and so is a text without colons before others (`shown_append`).
`IsShownText` says which texts come out as they are. A text is plain (`isPlain`) if it has none of
what the console interprets.
-/

namespace ScriptLint

namespace Console

/-! ## Tags -/

/-- A style tag. -/
def IsTag (tag : List Char) : Prop :=
  ∃ c inner, tag = '[' :: c :: (inner ++ [']']) ∧ isTagStart c = true ∧
    ∀ x ∈ inner, x ≠ '[' ∧ x ≠ ']'

/-- The characters that a tag can have between its brackets. -/
def isInner (x : Char) : Bool := x != '[' && x != ']'

/-- All characters but brackets can stand inside a tag. -/
theorem isInner_iff {x : Char} : isInner x = true ↔ x ≠ '[' ∧ x ≠ ']' := by simp [isInner]

/-- A tag at the front of a text is recognized, whatever follows. -/
theorem tagWidth?_tag_append {tag : List Char} (h : IsTag tag) (rest : List Char) :
    tagWidth? (tag ++ rest) = some tag.length := by
  obtain ⟨c, inner, rfl, hc, hinner⟩ := h
  have htake : (inner ++ ']' :: rest).takeWhile isInner = inner := by
    rw [takeWhile_append_stop (by decide), List.takeWhile_eq_self_iff]
    exact fun x hx => isInner_iff.2 (hinner x hx)
  have hsplit : '[' :: c :: (inner ++ [']']) ++ rest = '[' :: c :: (inner ++ ']' :: rest) := by simp
  rw [hsplit]
  show (if isTagStart c && ((inner ++ ']' :: rest).drop
    ((inner ++ ']' :: rest).takeWhile isInner).length).head? == some ']' then
      some (((inner ++ ']' :: rest).takeWhile isInner).length + 3) else none) = _
  rw [htake, List.drop_left, hc]
  simp

/-- What is recognized at the front of a text is a tag. -/
theorem exists_tag_of_tagWidth? {cs : List Char} {width : Nat} (h : tagWidth? cs = some width) :
    ∃ tag rest, IsTag tag ∧ cs = tag ++ rest ∧ width = tag.length := by
  unfold tagWidth? at h
  split at h
  · next c rest =>
    dsimp only at h
    split at h
    · next hcond =>
      rw [Bool.and_eq_true, beq_iff_eq] at hcond
      obtain ⟨hc, hclose⟩ := hcond
      obtain ⟨after, hafter⟩ := List.head?_eq_some_iff.1 hclose
      have hrest : rest = rest.takeWhile isInner ++ ']' :: after := by
        rw [← hafter]
        exact (List.prefix_iff_eq_append.1 (List.takeWhile_prefix isInner)).symm
      refine ⟨'[' :: c :: (rest.takeWhile isInner ++ [']']), after, ⟨c, _, rfl, hc, ?_⟩, ?_, ?_⟩
      · exact fun x hx => isInner_iff.1 (List.mem_takeWhile_imp hx)
      · simpa using hrest
      · rw [List.length_cons, List.length_cons, List.length_append]
        exact (Option.some.inj h).symm
    · cases h
  · cases h

/-- A text is empty, starts with a tag, or starts with a character that starts none. -/
theorem tags_induction {motive : List Char → Prop} (nil : motive [])
    (tag : ∀ tag rest, IsTag tag → motive rest → motive (tag ++ rest))
    (char : ∀ c cs, tagWidth? (c :: cs) = none → motive cs → motive (c :: cs))
    (cs : List Char) : motive cs := by
  match cs with
  | [] => exact nil
  | c :: cs =>
    cases hwidth : tagWidth? (c :: cs) with
    | none => exact char c cs hwidth (tags_induction nil tag char cs)
    | some width =>
      obtain ⟨t, rest, ht, heq, -⟩ := exists_tag_of_tagWidth? hwidth
      rw [heq]
      exact tag t rest ht (tags_induction nil tag char rest)
termination_by cs.length
decreasing_by
  · exact Nat.lt_succ_self _
  · obtain ⟨d, inner, rfl, -⟩ := ht
    rw [heq]
    simp only [List.length_append, List.length_cons]
    omega

/-- There is a piece even of the empty text. -/
theorem tagPieces_ne_nil (busy : Nat) (cs : List Char) : tagPieces busy cs ≠ [] := by
  induction cs generalizing busy with
  | nil => exact List.cons_ne_nil _ _
  | cons c cs ih =>
    unfold tagPieces
    split
    · exact List.cons_ne_nil _ _
    · rw [ne_eq, List.modifyHead_eq_nil_iff]
      exact ih _
    · split
      · exact List.cons_ne_nil _ _
      · rw [ne_eq, List.modifyHead_eq_nil_iff]
        exact ih _

/-- What is left of a tag is one piece. -/
theorem tagPieces_length (front : List Char) (last : Char) (rest : List Char) :
    tagPieces (front.length + 1) (front ++ last :: rest) =
      (front ++ [last]) :: tagPieces 0 rest := by
  induction front with
  | nil => rfl
  | cons c front ih =>
    show (tagPieces (front.length + 1) (front ++ last :: rest)).modifyHead (c :: ·) = _
    rw [ih]
    rfl

/-- A tag at the front is a piece of its own, behind an empty one. -/
theorem tagPieces_tag {tag : List Char} (h : IsTag tag) (rest : List Char) :
    tagPieces 0 (tag ++ rest) = [] :: tag :: tagPieces 0 rest := by
  have hwidth := tagWidth?_tag_append h rest
  obtain ⟨c, inner, rfl, -⟩ := h
  have hpiece := tagPieces_length (c :: inner) ']' rest
  simp only [List.cons_append, List.append_assoc, List.length_cons, List.length_append,
    List.nil_append, List.length_nil] at hwidth hpiece ⊢
  rw [tagPieces, hwidth]
  show [] :: (tagPieces (inner.length + 1 + 1) _).modifyHead _ = _
  rw [hpiece]
  rfl

/-- A character at which no tag starts joins the piece behind it. -/
theorem tagPieces_char {c : Char} {cs : List Char} (h : tagWidth? (c :: cs) = none) :
    tagPieces 0 (c :: cs) = (tagPieces 0 cs).modifyHead (c :: ·) := by
  rw [tagPieces, h]

/-- The pieces make up the text. -/
theorem flatten_tagPieces (cs : List Char) : (tagPieces 0 cs).flatten = cs := by
  induction cs using tags_induction with
  | nil => rfl
  | tag tag rest htag ih => rw [tagPieces_tag htag, List.flatten_cons, List.flatten_cons, ih]; rfl
  | char c cs hwidth ih =>
    rw [tagPieces_char hwidth]
    cases hpieces : tagPieces 0 cs with
    | nil => exact absurd hpieces (tagPieces_ne_nil 0 cs)
    | cons piece pieces =>
      rw [hpieces] at ih
      exact congrArg (c :: ·) ih

section
variable {tail : List Char} (htail : ∀ x ∈ tail, isInner x = true)
include htail

end

/-! ## Emoji codes -/

section
variable {emojis : Emojis}

/-- Between codes it does not matter whether a code would be kept. -/
theorem expandCodes_zero (keep keep' : Bool) (cs : List Char) :
    expandCodes emojis 0 keep cs = expandCodes emojis 0 keep' cs := by
  cases cs with
  | nil => rfl
  | cons c cs => rw [expandCodes, expandCodes]

/-- The characters of a code that is handled are shown if they are kept. -/
theorem expandCodes_length (keep : Bool) (front rest : List Char) :
    expandCodes emojis front.length keep (front ++ rest) =
      (if keep then front else []) ++ expandCodes emojis 0 true rest := by
  induction front with
  | nil =>
    rw [List.nil_append, List.length_nil, ite_self, List.nil_append]
    exact expandCodes_zero keep true rest
  | cons c front ih =>
    rw [List.cons_append, List.length_cons, expandCodes, ih]
    cases keep <;> rfl

/-- A character at which no code starts is shown. -/
theorem expandCodes_of_codeName?_eq_none {c : Char} {cs : List Char}
    (h : codeName? (c :: cs) = none) :
    expandCodes emojis 0 true (c :: cs) = c :: expandCodes emojis 0 true cs := by
  rw [expandCodes, h]

/-- What can stand between the colons of a code: neither colons nor blanks. -/
def IsCodeName (name : List Char) : Prop := ∀ c ∈ name, c ≠ ':' ∧ isBlank c = false

/-- A code between two colons is replaced if it is known, and kept with its colons if not. -/
theorem expandCodes_code {name : List Char} (h : IsCodeName name) (rest : List Char) :
    expandCodes emojis 0 true (':' :: (name ++ ':' :: rest)) =
      (emojiText? emojis name).getD (':' :: (name ++ [':'])) ++ expandCodes emojis 0 true rest := by
  have htake : (name ++ ':' :: rest).takeWhile (fun c => c != ':' && !isBlank c) = name := by
    rw [takeWhile_append_stop (by decide), List.takeWhile_eq_self_iff]
    intro c hc
    simpa using h c hc
  have hcode : codeName? (':' :: (name ++ ':' :: rest)) = some name := by
    rw [codeName?, htake, List.drop_left]
    rfl
  have hlength (keep : Bool) := @expandCodes_length emojis keep (name ++ [':']) rest
  simp only [List.length_append, List.append_assoc, List.singleton_append, List.length_singleton]
    at hlength
  rw [expandCodes, hcode]
  dsimp only
  cases emojiText? emojis name with
  | none => exact congrArg (':' :: ·) ((hlength true).trans (by simp))
  | some text => exact congrArg (text ++ ·) (hlength false)

/-- The name of a code stands between two colons at the front of a text. -/
theorem exists_eq_of_codeName? {cs name : List Char} (h : codeName? cs = some name) :
    ∃ rest, cs = ':' :: (name ++ ':' :: rest) ∧ IsCodeName name := by
  unfold codeName? at h
  split at h
  · next cs =>
    dsimp only at h
    split at h
    · next hclose =>
      obtain rfl := Option.some.inj h
      obtain ⟨rest, hrest⟩ := List.head?_eq_some_iff.1 (beq_iff_eq.1 hclose)
      refine ⟨rest, ?_, fun c hc => by simpa using List.mem_takeWhile_imp hc⟩
      rw [← hrest]
      exact congrArg (':' :: ·) (List.prefix_iff_eq_append.1 (List.takeWhile_prefix _)).symm
    · cases h
  · cases h

/-- A text is empty, starts with a code, or starts with a character at which no code starts. -/
theorem codes_induction {motive : List Char → Prop} (nil : motive [])
    (code : ∀ name rest, IsCodeName name → motive rest → motive (':' :: (name ++ ':' :: rest)))
    (char : ∀ c cs, codeName? (c :: cs) = none → motive cs → motive (c :: cs))
    (cs : List Char) : motive cs := by
  match cs with
  | [] => exact nil
  | c :: cs =>
    cases hcode : codeName? (c :: cs) with
    | none => exact char c cs hcode (codes_induction nil code char cs)
    | some name =>
      obtain ⟨rest, heq, hname⟩ := exists_eq_of_codeName? hcode
      rw [heq]
      exact code name rest hname (codes_induction nil code char rest)
termination_by cs.length
decreasing_by
  · exact Nat.lt_succ_self _
  · rw [heq]
    simp only [List.length_append, List.length_cons]
    omega

end

/-! ## Shown texts -/

section
variable {g : List Char → List Char} {p : Char → Prop} (hnil : g [] = [])
  (hcons : ∀ c piece, p c → (c ≠ '\\' ∨ piece.head? ≠ some '[') →
    g (c :: piece) = c :: g piece)
  (hbackslash : ∀ piece, piece.head? = some '[' → g ('\\' :: piece) = g piece)
  (htag : ∀ tag, IsTag tag → (∀ c ∈ tag, p c) → g tag = tag)
include hnil hcons hbackslash htag

end

section
variable {emojis : Emojis}

end

/-! ## Plain texts -/

/-- Whether a character is shown and printed as it is, whatever stands around it but for codes. -/
def isPlainChar (c : Char) : Bool := isInner c && !isCursorControl c && c != '\t' && c != '\n'

/-- Whether a text is shown and printed as it is, on one line: a blank stands behind each of its
colons, so that there are no codes. -/
def isPlain : List Char → Bool
  | [] => true
  | c :: cs => isPlainChar c && (c != ':' || cs.head? == some ' ') && isPlain cs

/-- A text is plain if its first character and the rest are, and a blank follows a colon. -/
theorem isPlain_cons {c : Char} {cs : List Char} :
    isPlain (c :: cs) = true ↔
      isPlainChar c = true ∧ (c = ':' → cs.head? = some ' ') ∧ isPlain cs = true := by
  rw [isPlain, Bool.and_eq_true, Bool.and_eq_true, and_assoc, Bool.or_eq_true, bne_iff_ne,
    beq_iff_eq, imp_iff_not_or]

/-- Two plain texts make up one. -/
theorem isPlain_append {cs ds : List Char} (hcs : isPlain cs = true) (hds : isPlain ds = true) :
    isPlain (cs ++ ds) = true := by
  induction cs with
  | nil => exact hds
  | cons c cs ih =>
    obtain ⟨hc, hcolon, hcs⟩ := isPlain_cons.1 hcs
    rw [List.cons_append]
    refine isPlain_cons.2 ⟨hc, ?_, ih hcs⟩
    intro heq
    rw [List.head?_append, hcolon heq, Option.some_or]

/-- All characters of a plain text are plain. -/
theorem isPlainChar_of_mem {cs : List Char} (h : isPlain cs = true) {c : Char} (hc : c ∈ cs) :
    isPlainChar c = true := by
  induction cs with
  | nil => cases hc
  | cons d cs ih =>
    obtain ⟨hd, -, hcs⟩ := isPlain_cons.1 h
    rcases List.mem_cons.1 hc with rfl | hc
    · exact hd
    · exact ih hcs hc

/-- Plain characters without colons are a plain text. -/
theorem isPlain_of_forall_mem {cs : List Char} (h : ∀ c ∈ cs, isPlainChar c = true)
    (hcolon : ':' ∉ cs) :
    isPlain cs = true := by
  induction cs with
  | nil => rfl
  | cons c cs ih =>
    rw [List.forall_mem_cons] at h
    rw [List.mem_cons, not_or] at hcolon
    exact isPlain_cons.2 ⟨h.1, fun heq => absurd heq.symm hcolon.1, ih h.2 hcolon.2⟩

/-- A character that is not plain is in no plain text. -/
theorem notMem_of_isPlain {cs : List Char} (h : isPlain cs = true) {c : Char}
    (hc : isPlainChar c = false) : c ∉ cs := by
  intro hmem
  rw [isPlainChar_of_mem h hmem] at hc
  cases hc

end Console

end ScriptLint
