import Mathlib.Data.List.Basic
import Mathlib.Data.List.TakeWhile
import ScriptLint.Source.Mask

/-!
# What a masked line shows

A line is cut into pieces: plain characters and closed string literals (`Piece`, `WellCut`). In the
line a literal stands with its contents (`rawText`), in the masked text as the placeholder `""`
(`maskedText`). Both orders of masking show some of these pieces and nothing else, and
`MaskedLine.rawColumn` takes the boundary between two pieces of the masked text to the same boundary
of the line (`MaskedLine.Shows`, `exists_shows_maskLine`).

A text without quotes that stands in a masked text therefore stands in the line as well, at the raw
column of its masked column (`MaskedLine.Shows.raw_eq_of_text_eq`).
-/

namespace ScriptLint

/-! ## Runs -/

/-- A run does not go on behind an element that ends it. -/
theorem takeWhile_append_stop {α : Type} {p : α → Bool} {stop : α} (h : p stop = false)
    (front rest : List α) : (front ++ stop :: rest).takeWhile p = front.takeWhile p := by
  induction front with
  | nil => exact List.takeWhile_cons_of_neg (by simp [h])
  | cons c front ih => rw [List.cons_append, List.takeWhile_cons, List.takeWhile_cons, ih]

/-- What is dropped from the front ends before a stop. -/
theorem dropWhile_append_stop {α : Type} {p : α → Bool} {stop : α} (h : p stop = false)
    (front rest : List α) :
    (front ++ stop :: rest).dropWhile p = front.dropWhile p ++ stop :: rest := by
  induction front with
  | nil => exact List.dropWhile_cons_of_neg (by simp [h])
  | cons c front ih =>
    rw [List.cons_append, List.dropWhile_cons, List.dropWhile_cons, ih]
    split <;> rfl

/-! ## Pieces of a line -/

/-- A part of a line that masking treats as one. -/
inductive Piece where
  /-- A character that is shown as it is. -/
  | plain (c : Char)
  /-- A closed literal, by its contents. -/
  | literal (contents : List Char)
deriving Repr, DecidableEq

/-- A piece as it stands in the line. -/
def Piece.raw : Piece → List Char
  | .plain c => [c]
  | .literal contents => quoteMark :: (contents ++ [quoteMark])

/-- A piece as masking shows it. -/
def Piece.masked : Piece → List Char
  | .plain c => [c]
  | .literal _ => [quoteMark, quoteMark]

/-- Pieces as they stand in the line. -/
def rawText (ps : List Piece) : List Char := ps.flatMap Piece.raw

/-- Pieces as masking shows them. -/
def maskedText (ps : List Piece) : List Char := ps.flatMap Piece.masked

/-- The pieces are those of their own text: literals have no quotes inside, and a plain quote is
one that no later quote closes. -/
def WellCut : List Piece → Prop
  | [] => True
  | .plain c :: ps => (c = quoteMark → quoteMark ∉ rawText ps) ∧ WellCut ps
  | .literal contents :: ps => quoteMark ∉ contents ∧ WellCut ps

/-- No pieces have no text. -/
@[simp] theorem rawText_nil : rawText [] = [] := rfl

/-- A character is written as it is. -/
@[simp] theorem rawText_plain (c : Char) (ps : List Piece) :
    rawText (.plain c :: ps) = c :: rawText ps := rfl

/-- A literal is written with its contents between quotes. -/
@[simp] theorem rawText_literal (contents : List Char) (ps : List Piece) :
    rawText (.literal contents :: ps) = quoteMark :: (contents ++ quoteMark :: rawText ps) := by
  simp [rawText, Piece.raw]

/-- Pieces are written one after another. -/
@[simp] theorem rawText_append (ps qs : List Piece) :
    rawText (ps ++ qs) = rawText ps ++ rawText qs := List.flatMap_append

/-- Characters alone are written as they are. -/
@[simp] theorem rawText_map_plain (cs : List Char) : rawText (cs.map .plain) = cs := by
  induction cs with
  | nil => rfl
  | cons c cs ih => rw [List.map_cons, rawText_plain, ih]

/-- No pieces have no masked text. -/
@[simp] theorem maskedText_nil : maskedText [] = [] := rfl

/-- A character is not masked. -/
@[simp] theorem maskedText_plain (c : Char) (ps : List Piece) :
    maskedText (.plain c :: ps) = c :: maskedText ps := rfl

/-- A literal is masked by its two quotes. -/
@[simp] theorem maskedText_literal (contents : List Char) (ps : List Piece) :
    maskedText (.literal contents :: ps) = quoteMark :: quoteMark :: maskedText ps := rfl

/-- Pieces are masked one after another. -/
@[simp] theorem maskedText_append (ps qs : List Piece) :
    maskedText (ps ++ qs) = maskedText ps ++ maskedText qs := List.flatMap_append

/-- Characters alone are not masked. -/
@[simp] theorem maskedText_map_plain (cs : List Char) : maskedText (cs.map .plain) = cs := by
  induction cs with
  | nil => rfl
  | cons c cs ih => rw [List.map_cons, maskedText_plain, ih]

/-- Masking keeps the last character of the text before a place. -/
theorem getLast?_maskedText (ps : List Piece) :
    (maskedText ps).getLast? = (rawText ps).getLast? := by
  rcases List.eq_nil_or_concat ps with rfl | ⟨ps, p, rfl⟩
  · rfl
  · rw [List.concat_eq_append, maskedText_append, rawText_append, List.getLast?_append,
      List.getLast?_append]
    cases p with
    | plain c => rfl
    | literal contents =>
      rw [rawText_literal, rawText_nil, ← List.cons_append, List.getLast?_concat]
      rfl

/-- The pieces in front of some others are cut well. -/
theorem WellCut.left {ps qs : List Piece} (h : WellCut (ps ++ qs)) : WellCut ps := by
  induction ps with
  | nil => trivial
  | cons p ps ih =>
    cases p with
    | plain c =>
      have hquote : quoteMark ∉ rawText ps ++ rawText qs ∨ c ≠ quoteMark := by
        by_cases hc : c = quoteMark
        · exact .inl (rawText_append ps qs ▸ h.1 hc)
        · exact .inr hc
      refine ⟨fun hc hmem => ?_, ih h.2⟩
      exact hquote.elim (· (List.mem_append_left _ hmem)) (· hc)
    | literal contents => exact ⟨h.1, ih h.2⟩

/-- The pieces behind some others are cut well. -/
theorem WellCut.right {ps qs : List Piece} (h : WellCut (ps ++ qs)) : WellCut qs := by
  induction ps with
  | nil => exact h
  | cons p ps ih => cases p <;> exact ih h.2

/-- Every line is cut into pieces. -/
theorem exists_wellCut (line : Line) : ∃ ps, WellCut ps ∧ rawText ps = line := by
  match line with
  | [] => exact ⟨[], trivial, rfl⟩
  | c :: cs =>
    by_cases hlit : c = quoteMark ∧ quoteMark ∈ cs
    · obtain ⟨rfl, hmem⟩ := hlit
      obtain ⟨contents, rest, hcs, hnot⟩ := List.eq_append_cons_of_mem hmem
      obtain ⟨ps, hps, hraw⟩ := exists_wellCut rest
      exact ⟨.literal contents :: ps, ⟨hnot, hps⟩, by rw [rawText_literal, hraw, hcs]⟩
    · obtain ⟨ps, hps, rfl⟩ := exists_wellCut cs
      exact ⟨.plain c :: ps, ⟨fun hc hmem => hlit ⟨hc, hmem⟩, hps⟩, rfl⟩
termination_by line.length
decreasing_by
  · rw [hcs]; simp only [List.length_cons, List.length_append]; omega
  · simp only [List.length_cons]; omega

/-- Pieces go on with others cut well, unless one of them is a quote that could be closed. -/
theorem WellCut.append {ps qs : List Piece} (hps : WellCut ps) (hplain : .plain quoteMark ∉ ps)
    (hqs : WellCut qs) : WellCut (ps ++ qs) := by
  induction ps with
  | nil => exact hqs
  | cons p ps ih =>
    rw [List.mem_cons, not_or] at hplain
    cases p with
    | plain c => exact ⟨fun hc => absurd (hc ▸ rfl) hplain.1, ih hps.2 hplain.2⟩
    | literal contents => exact ⟨hps.1, ih hps.2 hplain.2⟩

/-- If the number of quotes is even, each of them opens or closes a literal. -/
theorem WellCut.plain_quoteMark_notMem {ps : List Piece} (h : WellCut ps)
    (heven : (rawText ps).count quoteMark % 2 = 0) : .plain quoteMark ∉ ps := by
  induction ps with
  | nil => exact List.not_mem_nil
  | cons p ps ih =>
    rw [List.mem_cons, not_or]
    cases p with
    | plain c =>
      rw [rawText_plain, List.count_cons] at heven
      by_cases hc : c = quoteMark
      · rw [List.count_eq_zero.2 (h.1 hc), hc] at heven
        simp at heven
      · rw [if_neg (by simpa using hc), Nat.add_zero] at heven
        exact ⟨fun heq => hc (Piece.plain.inj heq).symm, ih h.2 heven⟩
    | literal contents =>
      refine ⟨nofun, ih h.2 ?_⟩
      rw [rawText_literal, List.count_cons_self, List.count_append, List.count_cons_self,
        List.count_eq_zero.2 h.1] at heven
      omega

/-! ## Hidden strings -/

/-- Inside a literal everything up to its closing quote is removed. -/
theorem hideFrom_true_append {contents rest : List Char} (h : quoteMark ∉ contents) :
    hideFrom true (contents ++ quoteMark :: rest) = quoteMark :: hideFrom false rest := by
  induction contents with
  | nil => simp [hideFrom]
  | cons c cs ih =>
    rw [List.mem_cons, not_or] at h
    simp only [List.cons_append, hideFrom, if_true, if_neg (Ne.symm h.1)]
    exact ih h.2

/-- A front part without quotes is shown as it is. -/
theorem hideStrings_append {front : List Char} (h : quoteMark ∉ front) (rest : List Char) :
    hideStrings (front ++ rest) = front ++ hideStrings rest := by
  unfold hideStrings
  induction front with
  | nil => rfl
  | cons c front ih =>
    rw [List.mem_cons, not_or] at h
    have hc : (c == quoteMark) = false := beq_eq_false_iff_ne.2 (Ne.symm h.1)
    simp only [List.cons_append, hideFrom, hc, Bool.false_and, Bool.false_eq_true, if_false, ih h.2]

/-- A closed literal is shown without its contents. -/
theorem hideStrings_literal {contents : List Char} (h : quoteMark ∉ contents) (rest : List Char) :
    hideStrings (quoteMark :: (contents ++ quoteMark :: rest)) =
      quoteMark :: quoteMark :: hideStrings rest := by
  have hopen : (contents ++ quoteMark :: rest).contains quoteMark = true := by simp
  simp only [hideStrings, hideFrom, hopen, beq_self_eq_true, Bool.and_true, hideFrom_true_append h,
    Bool.false_eq_true, if_false]

/-- A plain character opens no literal. -/
theorem WellCut.opens_eq_false {c : Char} {ps : List Piece} (h : WellCut (.plain c :: ps)) :
    (c == quoteMark && (rawText ps).contains quoteMark) = false := by
  rw [Bool.and_eq_false_imp, beq_iff_eq]
  intro hc
  simpa using h.1 hc

/-- Hiding string contents shows the pieces of a line. -/
theorem hideStrings_rawText {ps : List Piece} (h : WellCut ps) :
    hideStrings (rawText ps) = maskedText ps := by
  induction ps with
  | nil => rfl
  | cons p ps ih =>
    cases p with
    | plain c =>
      simp only [hideStrings] at ih
      simp only [hideStrings, rawText_plain, hideFrom, h.opens_eq_false, maskedText_plain,
        Bool.false_eq_true, if_false, ih h.2]
    | literal contents => rw [rawText_literal, hideStrings_literal h.1, ih h.2, maskedText_literal]

/-! ## Shifts -/

/-- The number of characters that masking removes from pieces. -/
def hiddenCount : List Piece → Nat
  | [] => 0
  | .plain _ :: ps => hiddenCount ps
  | .literal contents :: ps => contents.length + hiddenCount ps

/-- The line is longer than its masked text by the characters removed. -/
theorem length_rawText (ps : List Piece) :
    (rawText ps).length = (maskedText ps).length + hiddenCount ps := by
  induction ps with
  | nil => rfl
  | cons p ps ih =>
    cases p with
    | plain c => simp only [rawText_plain, maskedText_plain, List.length_cons, hiddenCount]; omega
    | literal contents =>
      simp only [rawText_literal, maskedText_literal, List.length_cons, List.length_append,
        hiddenCount]
      omega

/-- The shifts of pieces, behind `column` characters shown and `removed` characters removed. -/
def pieceShifts (column removed : Nat) : List Piece → List Shift
  | [] => []
  | .plain _ :: ps => pieceShifts (column + 1) removed ps
  | .literal contents :: ps =>
    (if removed + contents.length = 0 then []
      else [⟨(column + 2 : Nat), (removed + contents.length : Nat)⟩]) ++
      pieceShifts (column + 2) (removed + contents.length) ps

/-- Inside a literal the shifts go on behind its closing quote. -/
theorem shiftsFrom_true_append {contents rest : List Char} (h : quoteMark ∉ contents)
    (column removed : Nat) :
    shiftsFrom true column removed (contents ++ quoteMark :: rest) =
      (if removed + contents.length = 0 then []
        else [⟨(column + 1 : Nat), (removed + contents.length : Nat)⟩]) ++
        shiftsFrom false (column + 1) (removed + contents.length) rest := by
  induction contents generalizing removed with
  | nil => simp [shiftsFrom]
  | cons c cs ih =>
    rw [List.mem_cons, not_or] at h
    simp only [List.cons_append, shiftsFrom, if_true, if_neg (Ne.symm h.1)]
    rw [ih h.2, List.length_cons, Nat.add_assoc, Nat.add_comm 1]

/-- A front part without quotes leaves no shift. -/
theorem shiftsFrom_append {front : List Char} (h : quoteMark ∉ front) (rest : List Char)
    (column removed : Nat) :
    shiftsFrom false column removed (front ++ rest) =
      shiftsFrom false (column + front.length) removed rest := by
  induction front generalizing column with
  | nil => rfl
  | cons c front ih =>
    rw [List.mem_cons, not_or] at h
    have hc : (c == quoteMark) = false := beq_eq_false_iff_ne.2 (Ne.symm h.1)
    simp only [List.cons_append, shiftsFrom, hc, Bool.false_and, Bool.false_eq_true, if_false,
      ih h.2, List.length_cons, Nat.add_assoc, Nat.add_comm 1]

/-- The shifts of a line are those of its pieces. -/
theorem shiftsFrom_rawText {ps : List Piece} (h : WellCut ps) (column removed : Nat) :
    shiftsFrom false column removed (rawText ps) = pieceShifts column removed ps := by
  induction ps generalizing column removed with
  | nil => rfl
  | cons p ps ih =>
    cases p with
    | plain c =>
      simp only [rawText_plain, shiftsFrom, h.opens_eq_false, pieceShifts, Bool.false_eq_true,
        if_false, ih h.2]
    | literal contents =>
      have hopen : (contents ++ quoteMark :: rawText ps).contains quoteMark = true := by simp
      simp only [rawText_literal, shiftsFrom, hopen, beq_self_eq_true, Bool.and_true,
        shiftsFrom_true_append h.1, ih h.2, pieceShifts, Bool.false_eq_true, if_false]

/-- Shifts split where the pieces do. -/
theorem pieceShifts_append (column removed : Nat) (ps qs : List Piece) :
    pieceShifts column removed (ps ++ qs) = pieceShifts column removed ps ++
      pieceShifts (column + (maskedText ps).length) (removed + hiddenCount ps) qs := by
  induction ps generalizing column removed with
  | nil => rfl
  | cons p ps ih =>
    cases p with
    | plain c =>
      simp only [List.cons_append, pieceShifts, ih, maskedText_plain, List.length_cons, hiddenCount]
      rw [Nat.add_assoc, Nat.add_comm 1]
    | literal contents =>
      simp only [List.cons_append, pieceShifts, ih, maskedText_literal, List.length_cons,
        hiddenCount, List.append_assoc]
      rw [Nat.add_assoc column, Nat.add_comm 2, Nat.add_assoc removed]

/-- A shift takes effect behind the literal it belongs to. -/
theorem start_of_mem_pieceShifts {column removed : Nat} {ps : List Piece} {s : Shift}
    (h : s ∈ pieceShifts column removed ps) :
    (column : Int) < s.start ∧ s.start ≤ column + (maskedText ps).length := by
  induction ps generalizing column removed with
  | nil => cases h
  | cons p ps ih =>
    cases p with
    | plain c =>
      have := ih h
      simp only [maskedText_plain, List.length_cons]
      omega
    | literal contents =>
      simp only [maskedText_literal, List.length_cons]
      rcases List.mem_append.1 h with h | h
      · split at h
        · cases h
        · rw [List.mem_singleton.1 h]
          show (column : Int) < (column + 2 : Nat) ∧ ((column + 2 : Nat) : Int) ≤ _
          omega
      · have := ih h
        omega

/-- The last shift of pieces has the number of all characters removed so far; without a shift
nothing was removed. -/
theorem getLast?_pieceShifts (column removed : Nat) (ps : List Piece) :
    ((pieceShifts column removed ps).getLast?.map Shift.amount).getD removed =
      (removed + hiddenCount ps : Nat) := by
  induction ps generalizing column removed with
  | nil => rfl
  | cons p ps ih =>
    cases p with
    | plain c => exact ih _ _
    | literal contents =>
      have ih := ih (column + 2) (removed + contents.length)
      simp only [pieceShifts, List.getLast?_append, hiddenCount, ← Nat.add_assoc]
      rw [← ih]
      cases (pieceShifts (column + 2) (removed + contents.length) ps).getLast? with
      | some s => rfl
      | none =>
        split
        · rename_i h0
          show (removed : Int) = (removed + contents.length : Nat)
          omega
        · rfl

/-! ## The search for a shift -/

/-- Halving finds the end of the entries that are at most `x`, wherever the search stands. -/
theorem upperBound_eq {done later : List Int} {x : Int} (hdone : ∀ y ∈ done, y ≤ x)
    (hlater : ∀ y ∈ later, x < y) {rounds lo hi : Nat} (hlo : lo ≤ done.length)
    (hhi : done.length ≤ hi) (hlen : hi ≤ (done ++ later).length) (hrounds : hi - lo ≤ rounds) :
    upperBound (done ++ later) x rounds lo hi = done.length := by
  induction rounds generalizing lo hi with
  | zero => simp only [upperBound]; omega
  | succ rounds ih =>
    simp only [upperBound]
    split
    · rename_i hlt
      have hmid : (lo + hi) / 2 < (done ++ later).length := by omega
      have hget : (done ++ later).getD ((lo + hi) / 2) 0 = (done ++ later)[(lo + hi) / 2] := by
        rw [List.getD_eq_getElem?_getD, List.getElem?_eq_getElem hmid, Option.getD_some]
      rw [hget]
      by_cases hin : (lo + hi) / 2 < done.length
      · have := hdone _ (List.getElem_mem hin)
        rw [List.getElem_append_left hin, if_neg (by omega)]
        exact ih (by omega) hhi hlen (by omega)
      · rw [List.length_append] at hmid
        have hsub : (lo + hi) / 2 - done.length < later.length := by omega
        have := hlater _ (List.getElem_mem hsub)
        rw [List.getElem_append_right (by omega), if_pos this]
        exact ih hlo (by omega) (by omega) (by omega)
    · omega

/-- The raw column adds the amount of the last shift that has taken effect. -/
theorem MaskedLine.rawColumn_eq {m : MaskedLine} {done later : List Shift} {x : Int}
    (hm : m.shifts = done ++ later) (hdone : ∀ s ∈ done, s.start ≤ x)
    (hlater : ∀ s ∈ later, x < s.start) :
    m.rawColumn x = x + (done.getLast?.map Shift.amount).getD 0 := by
  have hbound : upperBound (m.shifts.map (·.start)) x m.shifts.length 0 m.shifts.length =
      done.length := by
    have hlen : done.length = (done.map (·.start)).length := (List.length_map _).symm
    rw [hm, List.map_append, hlen]
    refine upperBound_eq (by simpa using hdone) (by simpa using hlater) (Nat.zero_le _) ?_ ?_ ?_
    · simp
    · simp
    · simp
  unfold MaskedLine.rawColumn
  rw [hbound]
  rcases List.eq_nil_or_concat done with rfl | ⟨front, s, rfl⟩
  · simp
  · simp [hm]

/-! ## What a masked line shows -/

/-- The masked line shows the pieces `ps`, which start the line it came from; a column between two
pieces is taken back to the same place of the line. -/
structure MaskedLine.Shows (m : MaskedLine) (ps : List Piece) : Prop where
  text_eq : m.text = maskedText ps
  raw_prefix : rawText ps <+: m.raw
  rawColumn_eq : ∀ qs, qs <+: ps → m.rawColumn (maskedText qs).length = (rawText qs).length

/-- Of two places between shown pieces, the later one has the larger raw column. -/
theorem MaskedLine.Shows.rawColumn_lt {m : MaskedLine} {ps qs us : List Piece} (h : m.Shows ps)
    (hqs : qs <+: ps) (hus : us <+: ps) (hlt : (maskedText qs).length < (maskedText us).length) :
    m.rawColumn (maskedText qs).length < m.rawColumn (maskedText us).length := by
  rw [h.rawColumn_eq qs hqs, h.rawColumn_eq us hus, Int.ofNat_lt]
  rcases List.prefix_or_prefix_of_prefix hqs hus with ⟨between, rfl⟩ | ⟨between, rfl⟩
  · have := length_rawText between
    rw [maskedText_append, List.length_append] at hlt
    rw [rawText_append, List.length_append]
    omega
  · rw [maskedText_append, List.length_append] at hlt
    omega

/-- A masked line with the shifts of some pieces takes their boundaries back. -/
theorem MaskedLine.rawColumn_maskedText {m : MaskedLine} {ps qs : List Piece}
    (hm : m.shifts = pieceShifts 0 0 ps) (hqs : qs <+: ps) :
    m.rawColumn (maskedText qs).length = (rawText qs).length := by
  obtain ⟨rs, rfl⟩ := hqs
  rw [pieceShifts_append, Nat.zero_add, Nat.zero_add] at hm
  have hlast : ((pieceShifts 0 0 qs).getLast?.map Shift.amount).getD 0 = hiddenCount qs := by
    simpa using getLast?_pieceShifts 0 0 qs
  rw [m.rawColumn_eq hm, hlast, length_rawText]
  · exact (Int.natCast_add _ _).symm
  · intro s hs
    have := (start_of_mem_pieceShifts hs).2
    omega
  · exact fun s hs => (start_of_mem_pieceShifts hs).1

/-! ## Cut comments -/

/-- A front part without a `#` is kept. -/
theorem cutComment_append {front : List Char} (h : commentMark ∉ front) (rest : List Char) :
    cutComment (front ++ rest) = front ++ cutComment rest :=
  List.takeWhile_append_of_pos fun c hc => by
    have hne : c ≠ commentMark := fun heq => h (heq ▸ hc)
    simpa using hne

/-- Nothing behind a `#` is kept. -/
theorem cutComment_commentMark (front rest : List Char) :
    cutComment (front ++ commentMark :: rest) = cutComment front :=
  takeWhile_append_stop (by decide) front rest

/-- Whether a piece does not start the comment. -/
def Piece.isShown (p : Piece) : Bool := p != .plain commentMark

/-- Cutting the comment off a masked text keeps the pieces before it. -/
theorem cutComment_maskedText (ps : List Piece) :
    cutComment (maskedText ps) = maskedText (ps.takeWhile Piece.isShown) := by
  unfold cutComment
  induction ps with
  | nil => rfl
  | cons p ps ih =>
    cases p with
    | plain c =>
      by_cases hc : c = commentMark
      · subst hc; simp [Piece.isShown]
      · rw [List.takeWhile_cons_of_pos (by simpa [Piece.isShown] using hc), maskedText_plain,
          maskedText_plain, List.takeWhile_cons_of_pos (by simpa using hc), ih]
    | literal contents =>
      rw [List.takeWhile_cons_of_pos (by simp [Piece.isShown]), maskedText_literal,
        maskedText_literal, List.takeWhile_cons_of_pos (by decide),
        List.takeWhile_cons_of_pos (by decide), ih]

/-- With strings first, a masked line shows the pieces of the line up to a plain `#`. -/
theorem shows_stringsFirst {ps : List Piece} (h : WellCut ps) :
    (maskLine .stringsFirst (rawText ps)).Shows (ps.takeWhile Piece.isShown) where
  text_eq := by
    show cutComment (hideStrings (rawText ps)) = _
    rw [hideStrings_rawText h, cutComment_maskedText]
  raw_prefix := by
    have hsplit : rawText ps =
        rawText (ps.takeWhile Piece.isShown) ++ rawText (ps.dropWhile Piece.isShown) := by
      rw [← rawText_append, List.takeWhile_append_dropWhile]
    exact ⟨_, hsplit.symm⟩
  rawColumn_eq qs hqs :=
    MaskedLine.rawColumn_maskedText (shiftsFrom_rawText h 0 0)
      (hqs.trans (List.takeWhile_prefix _))

/-- With the comment first, a masked line shows the pieces of the line up to its first `#`. -/
theorem shows_commentFirst {line : Line} {ps : List Piece} (h : WellCut ps)
    (hps : rawText ps = cutComment line) : (maskLine .commentFirst line).Shows ps where
  text_eq := by
    show hideStrings (cutComment line) = _
    rw [← hps, hideStrings_rawText h]
  raw_prefix := by
    rw [hps]
    exact List.takeWhile_prefix _
  rawColumn_eq qs hqs := by
    refine MaskedLine.rawColumn_maskedText ?_ hqs
    show shiftsFrom false 0 0 (cutComment line) = _
    rw [← hps, shiftsFrom_rawText h]

/-- A masked line keeps the line itself. -/
@[simp] theorem raw_maskLine (order : MaskOrder) (line : Line) :
    (maskLine order line).raw = line := by
  cases order <;> rfl

/-- Every masked line shows some pieces of its line, cut well. -/
theorem exists_shows_maskLine (order : MaskOrder) (line : Line) :
    ∃ ps, WellCut ps ∧ (maskLine order line).Shows ps := by
  cases order with
  | stringsFirst =>
    obtain ⟨ps, hps, rfl⟩ := exists_wellCut line
    refine ⟨_, ?_, shows_stringsFirst hps⟩
    rw [← List.takeWhile_append_dropWhile (p := Piece.isShown) (l := ps)] at hps
    exact hps.left
  | commentFirst =>
    obtain ⟨ps, hps, hraw⟩ := exists_wellCut (cutComment line)
    exact ⟨ps, hps, shows_commentFirst hps hraw⟩

/-! ## Texts without quotes -/

/-- A place of a masked text that is not in front of a quote lies between two pieces. -/
theorem exists_split_of_maskedText {ps : List Piece} {before rest : List Char}
    (h : maskedText ps = before ++ rest) (hrest : rest.head? ≠ some quoteMark) :
    ∃ qs rs, ps = qs ++ rs ∧ maskedText qs = before ∧ maskedText rs = rest := by
  induction ps generalizing before with
  | nil =>
    obtain ⟨rfl, rfl⟩ := List.append_eq_nil_iff.1 h.symm
    exact ⟨[], [], rfl, rfl, rfl⟩
  | cons p ps ih =>
    cases before with
    | nil => exact ⟨[], p :: ps, rfl, rfl, h⟩
    | cons b before =>
      cases p with
      | plain c =>
        rw [maskedText_plain, List.cons_append, List.cons.injEq] at h
        obtain ⟨rfl, h⟩ := h
        obtain ⟨qs, rs, rfl, rfl, hrs⟩ := ih h
        exact ⟨.plain c :: qs, rs, rfl, rfl, hrs⟩
      | literal contents =>
        rw [maskedText_literal, List.cons_append, List.cons.injEq] at h
        obtain ⟨rfl, h⟩ := h
        cases before with
        | nil => rw [List.nil_append] at h; simp [← h] at hrest
        | cons b before =>
          rw [List.cons_append, List.cons.injEq] at h
          obtain ⟨rfl, h⟩ := h
          obtain ⟨qs, rs, rfl, rfl, hrs⟩ := ih h
          exact ⟨.literal contents :: qs, rs, rfl, rfl, hrs⟩

/-- A text without quotes at the start of pieces consists of plain ones, in every form of the pieces
that shows plain characters as they are and literals with their opening quote. -/
theorem exists_plain_of_flatMap (form : Piece → List Char) (hplain : ∀ c, form (.plain c) = [c])
    (hliteral : ∀ contents, ∃ rest, form (.literal contents) = quoteMark :: rest)
    {ps : List Piece} {word after : List Char} (h : ps.flatMap form = word ++ after)
    (hword : quoteMark ∉ word) :
    ∃ rs, ps = word.map .plain ++ rs ∧ rs.flatMap form = after := by
  induction word generalizing ps with
  | nil => exact ⟨ps, rfl, h⟩
  | cons c word ih =>
    rw [List.mem_cons, not_or] at hword
    match ps with
    | [] => cases h
    | .plain d :: ps =>
      rw [List.flatMap_cons, hplain, List.singleton_append, List.cons_append, List.cons.injEq] at h
      obtain ⟨rfl, h⟩ := h
      obtain ⟨rs, rfl, hrs⟩ := ih h hword.2
      exact ⟨rs, rfl, hrs⟩
    | .literal contents :: ps =>
      obtain ⟨rest, hform⟩ := hliteral contents
      rw [List.flatMap_cons, hform, List.cons_append, List.cons_append, List.cons.injEq] at h
      exact absurd h.1 hword.1

/-- A text without quotes inside a masked text consists of plain pieces. -/
theorem exists_pieces_of_maskedText {ps : List Piece} {before word after : List Char}
    (h : maskedText ps = before ++ word ++ after) (hne : word ≠ []) (hword : quoteMark ∉ word) :
    ∃ qs rs, ps = qs ++ word.map .plain ++ rs ∧ maskedText qs = before ∧
      maskedText rs = after := by
  rw [List.append_assoc] at h
  have hhead : (word ++ after).head? ≠ some quoteMark := by
    obtain ⟨c, cs, rfl⟩ := List.exists_cons_of_ne_nil hne
    rw [List.cons_append, List.head?_cons, Ne, Option.some.injEq]
    rintro rfl
    exact hword List.mem_cons_self
  obtain ⟨qs, tail, rfl, hqs, htail⟩ := exists_split_of_maskedText h hhead
  obtain ⟨rs, rfl, hrs⟩ :=
    exists_plain_of_flatMap Piece.masked (fun _ => rfl) (fun _ => ⟨_, rfl⟩) htail hword
  exact ⟨qs, rs, by rw [List.append_assoc], hqs, hrs⟩

/-- A text without quotes in a masked text stands in the line at the raw column of its place. -/
theorem MaskedLine.Shows.raw_eq_of_text_eq {m : MaskedLine} {ps : List Piece} (h : m.Shows ps)
    {before word after : List Char} (htext : m.text = before ++ word ++ after) (hne : word ≠ [])
    (hword : quoteMark ∉ word) :
    ∃ front back, m.raw = front ++ word ++ back ∧ m.rawColumn before.length = front.length := by
  obtain ⟨qs, rs, rfl, rfl, -⟩ := exists_pieces_of_maskedText (h.text_eq ▸ htext) hne hword
  obtain ⟨hidden, hraw⟩ := h.raw_prefix
  refine ⟨rawText qs, rawText rs ++ hidden, ?_, h.rawColumn_eq qs ?_⟩
  · rw [← hraw, rawText_append, rawText_append, rawText_map_plain, List.append_assoc _ _ hidden]
  · rw [List.append_assoc]
    exact List.prefix_append _ _

/-! ## The front of a line -/

/-- Masking keeps a front part without quotes and without a `#`. -/
theorem text_maskLine_front {front : List Char} (hquote : quoteMark ∉ front)
    (hmark : commentMark ∉ front) (order : MaskOrder) (rest : List Char) :
    (maskLine order (front ++ rest)).text = front ++ (maskLine order rest).text := by
  cases order with
  | stringsFirst =>
    show cutComment (hideStrings (front ++ rest)) = front ++ cutComment (hideStrings rest)
    rw [hideStrings_append hquote, cutComment_append hmark]
  | commentFirst =>
    show hideStrings (cutComment (front ++ rest)) = front ++ hideStrings (cutComment rest)
    rw [cutComment_append hmark, hideStrings_append hquote]

/-- A front part of a masked text without quotes is the front of the line, and its columns are those
of the line. -/
theorem front_of_text_maskLine {order : MaskOrder} {line : Line} {front rest : List Char}
    (htext : (maskLine order line).text = front ++ rest) (hquote : quoteMark ∉ front) :
    front <+: line ∧
      ∀ x : Nat, x ≤ front.length → (maskLine order line).rawColumn x = x := by
  obtain ⟨ps, -, hshows⟩ := exists_shows_maskLine order line
  obtain ⟨rs, rfl, -⟩ := exists_plain_of_flatMap Piece.masked (fun _ => rfl) (fun _ => ⟨_, rfl⟩)
    (hshows.text_eq ▸ htext : maskedText ps = front ++ rest) hquote
  constructor
  · have hraw := hshows.raw_prefix
    rw [rawText_append, rawText_map_plain, raw_maskLine] at hraw
    exact (List.prefix_append _ _).trans hraw
  · intro x hx
    have hlen : (front.take x).length = x := List.length_take_of_le hx
    have hplace := ((List.take_prefix x front).map Piece.plain).trans
      (List.prefix_append (front.map .plain) rs)
    have hcolumn := hshows.rawColumn_eq _ hplace
    rwa [maskedText_map_plain, rawText_map_plain, hlen] at hcolumn

end ScriptLint
