import ScriptLint.Proofs.Columns
import ScriptLint.Proofs.Literal

/-!
# Masking projects a line

A masked text is the line up to its comment with each closed literal replaced by two quotes, and
`MaskedLine.rawColumn` takes its columns back. `mask_projects_line` says this in terms of the line
alone: which `#` cuts it (`IsCut`), which of its quotes are literals (`ClosedLiteral`), and which of
its columns are reached.

Both texts are rows of the same pieces, in two forms. A column of either form is the start of a
piece or lies behind its first character (`startsPiece_iff`); the raw column of a piece's start is
the start of the same piece, and the second kind of column is found in literals only.
-/

namespace ScriptLint

/-! ## Starts of pieces -/

/-- A piece starts at a column, in one of the forms of the pieces. -/
def StartsPiece (form : Piece → List Char) (ps : List Piece) (column : Nat) : Prop :=
  ∃ before p after, ps = before ++ p :: after ∧ (before.flatMap form).length = column

/-- A column lies in a piece behind its first character, in one of the forms of the pieces. -/
def InsidePiece (form : Piece → List Char) (ps : List Piece) (column : Nat) : Prop :=
  ∃ before p after, ps = before ++ p :: after ∧ (before.flatMap form).length < column ∧
    column < (before.flatMap form).length + (form p).length

section
variable {form : Piece → List Char} {ps : List Piece} {column : Nat}

/-- The length of a form of pieces adds up around each of them. -/
theorem length_flatMap_cons (form : Piece → List Char) (before : List Piece) (p : Piece)
    (after : List Piece) : ((before ++ p :: after).flatMap form).length =
      (before.flatMap form).length + (form p).length + (after.flatMap form).length := by
  simp only [List.flatMap_append, List.flatMap_cons, List.length_append, Nat.add_assoc]

/-- Every column of a form of pieces lies in one of them. -/
theorem exists_piece_of_lt_length (h : column < (ps.flatMap form).length) :
    ∃ before p after, ps = before ++ p :: after ∧ (before.flatMap form).length ≤ column ∧
      column < (before.flatMap form).length + (form p).length := by
  induction ps generalizing column with
  | nil => exact absurd h (Nat.not_lt_zero column)
  | cons p ps ih =>
    rcases Nat.lt_or_ge column (form p).length with hlt | hge
    · exact ⟨[], p, ps, rfl, Nat.zero_le column, by simpa using hlt⟩
    · rw [List.flatMap_cons, List.length_append] at h
      obtain ⟨before, q, after, rfl, hle, hlt⟩ := ih (by omega : column - (form p).length < _)
      refine ⟨p :: before, q, after, rfl, ?_, ?_⟩
      · rw [List.flatMap_cons, List.length_append]; omega
      · rw [List.flatMap_cons, List.length_append]; omega

/-- The start of a piece does not lie inside another one. -/
theorem StartsPiece.not_insidePiece (h : StartsPiece form ps column) :
    ¬ InsidePiece form ps column := by
  obtain ⟨before, p, after, rfl, rfl⟩ := h
  rintro ⟨before', p', after', heq, hlt, hlt'⟩
  rcases List.append_eq_append_iff.1 heq with ⟨between, rfl, -⟩ | ⟨between, rfl, hbetween⟩
  · rw [List.flatMap_append, List.length_append] at hlt
    omega
  · cases between with
    | nil =>
      rw [List.append_nil] at hlt
      exact Nat.lt_irrefl _ hlt
    | cons q between =>
      obtain ⟨rfl, -⟩ := List.cons.inj hbetween
      rw [length_flatMap_cons] at hlt'
      omega

/-- Pieces start at the columns that do not lie inside one. -/
theorem startsPiece_iff (hform : ∀ p, form p ≠ []) :
    StartsPiece form ps column ↔ column < (ps.flatMap form).length ∧
      ¬ InsidePiece form ps column := by
  constructor
  · intro h
    refine ⟨?_, h.not_insidePiece⟩
    obtain ⟨before, p, after, rfl, rfl⟩ := h
    have hpos := List.length_pos_iff.2 (hform p)
    rw [length_flatMap_cons]
    omega
  · rintro ⟨hlt, hinside⟩
    obtain ⟨before, p, after, rfl, hle, hlt⟩ := exists_piece_of_lt_length hlt
    refine ⟨before, p, after, rfl, ?_⟩
    by_contra hne
    exact hinside ⟨before, p, after, rfl, Nat.lt_of_le_of_ne hle hne, hlt⟩

end

/-- No piece is empty. -/
theorem Piece.raw_ne_nil (p : Piece) : p.raw ≠ [] := by cases p <;> exact List.cons_ne_nil _ _

/-- No piece is empty when it is masked. -/
theorem Piece.masked_ne_nil (p : Piece) : p.masked ≠ [] := by cases p <;> exact List.cons_ne_nil _ _

/-! ## Literals among pieces -/

/-- A piece is a literal whose two quotes stand at the columns `a` and `b` of the line. -/
def LiteralSpan (ps : List Piece) (a b : Nat) : Prop :=
  ∃ before contents after, ps = before ++ .literal contents :: after ∧
    a = (rawText before).length ∧ b = a + contents.length + 1

/-- A column of the masked text holds the second character of a placeholder. -/
def PlaceholderEnd (ps : List Piece) (column : Nat) : Prop :=
  ∃ before contents after, ps = before ++ .literal contents :: after ∧
    column = (maskedText before).length + 1

/-- In the line, what lies inside a piece lies behind the opening quote of a literal, up to its
closing quote. -/
theorem insidePiece_raw_iff {ps : List Piece} {column : Nat} :
    InsidePiece Piece.raw ps column ↔ ∃ a b, LiteralSpan ps a b ∧ a < column ∧ column ≤ b := by
  constructor
  · rintro ⟨before, p, after, rfl, hlt, hlt'⟩
    cases p with
    | plain c =>
      simp only [Piece.raw, List.length_singleton] at hlt'
      omega
    | literal contents =>
      refine ⟨_, _, ⟨before, contents, after, rfl, rfl, rfl⟩, hlt, ?_⟩
      simp only [Piece.raw, List.length_cons, List.length_append, List.length_nil] at hlt'
      change column ≤ (before.flatMap Piece.raw).length + contents.length + 1
      omega
  · rintro ⟨a, b, ⟨before, contents, after, rfl, rfl, rfl⟩, hlt, hle⟩
    refine ⟨before, .literal contents, after, rfl, hlt, ?_⟩
    simp only [Piece.raw, List.length_cons, List.length_append, List.length_nil]
    change column < (rawText before).length + _
    omega

/-- In the masked text, what lies inside a piece is the second character of a placeholder. -/
theorem insidePiece_masked_iff {ps : List Piece} {column : Nat} :
    InsidePiece Piece.masked ps column ↔ PlaceholderEnd ps column := by
  constructor
  · rintro ⟨before, p, after, rfl, hlt, hlt'⟩
    cases p with
    | plain c =>
      simp only [Piece.masked, List.length_singleton] at hlt'
      omega
    | literal contents =>
      refine ⟨before, contents, after, rfl, ?_⟩
      simp only [Piece.masked, List.length_cons, List.length_nil] at hlt'
      change column = (before.flatMap Piece.masked).length + 1
      omega
  · rintro ⟨before, contents, after, rfl, rfl⟩
    exact ⟨before, .literal contents, after, rfl, Nat.lt_succ_self _, Nat.lt_succ_self _⟩

/-- The literals that start in the front pieces are those of the front pieces. -/
theorem literalSpan_append {qs rs : List Piece} {a b : Nat} :
    LiteralSpan (qs ++ rs) a b ∧ a < (rawText qs).length ↔ LiteralSpan qs a b := by
  constructor
  · rintro ⟨⟨before, contents, after, heq, rfl, rfl⟩, hlt⟩
    rcases List.append_eq_append_iff.1 heq with ⟨between, rfl, -⟩ | ⟨between, rfl, hbetween⟩
    · rw [rawText_append, List.length_append] at hlt
      omega
    · cases between with
      | nil =>
        rw [List.append_nil] at hlt
        exact absurd hlt (Nat.lt_irrefl _)
      | cons p between =>
        obtain ⟨rfl, -⟩ := List.cons.inj hbetween
        exact ⟨before, contents, between, rfl, rfl, rfl⟩
  · rintro ⟨before, contents, after, rfl, rfl, rfl⟩
    refine ⟨⟨before, contents, after ++ rs, by simp, rfl, rfl⟩, ?_⟩
    rw [rawText_append, rawText_literal, List.length_append, List.length_cons]
    omega

/-! ## Literals among pieces are closed literals -/

/-- A quote is told by the number of quotes before it. -/
theorem eq_of_count_take_eq {text : Line} {a b : Nat} (ha : text[a]? = some quoteMark)
    (hb : text[b]? = some quoteMark)
    (h : (text.take a).count quoteMark = (text.take b).count quoteMark) : a = b := by
  have hsa := count_take_succ ha
  have hsb := count_take_succ hb
  rcases Nat.lt_trichotomy a b with hlt | heq | hlt
  · have := count_take_le text (by omega : a + 1 ≤ b)
    omega
  · exact heq
  · have := count_take_le text (by omega : b + 1 ≤ a)
    omega

/-- A closed literal opens before it closes. -/
theorem ClosedLiteral.lt {text : Line} {a b : Nat} (h : ClosedLiteral text a b) : a < b := by
  obtain ⟨k, ha, hb⟩ := h.counts
  by_contra hge
  have := count_take_le text (Nat.le_of_not_lt hge)
  omega

/-- A closed literal that opens in another one is that one. -/
theorem ClosedLiteral.eq_of_opens_in {text : Line} {a b a' b' : Nat} (h : ClosedLiteral text a b)
    (h' : ClosedLiteral text a' b') (hle : a' ≤ a) (hle' : a ≤ b') : a = a' ∧ b = b' := by
  obtain ⟨k, ha, hb⟩ := h.counts
  obtain ⟨k', ha', hb'⟩ := h'.counts
  have hstart : a = a' := by
    by_contra hne
    -- otherwise an odd number of quotes stands before `a`
    have hlow := count_take_le text (by omega : a' + 1 ≤ a)
    have hhigh := count_take_le text hle'
    rw [count_take_succ h'.opens] at hlow
    omega
  subst hstart
  exact ⟨rfl, eq_of_count_take_eq h.closes h'.closes (by omega)⟩

/-- Before a literal every quote belongs to one. -/
theorem WellCut.even_count_before {before after : List Piece} {contents : List Char}
    (h : WellCut (before ++ .literal contents :: after)) :
    ∃ k, (rawText before).count quoteMark = 2 * k := by
  induction before with
  | nil => exact ⟨0, rfl⟩
  | cons p before ih =>
    cases p with
    | plain c =>
      have hc : c ≠ quoteMark := fun hc => h.1 hc (by simp)
      obtain ⟨k, hk⟩ := ih h.2
      exact ⟨k, by rw [rawText_plain, List.count_cons_of_ne hc, hk]⟩
    | literal others =>
      obtain ⟨k, hk⟩ := ih h.2
      refine ⟨k + 1, ?_⟩
      rw [rawText_literal, List.count_cons_self, List.count_append, List.count_eq_zero.2 h.1,
        List.count_cons_self, hk]
      omega

/-- A literal piece is a closed literal of the line. -/
theorem LiteralSpan.closedLiteral {ps : List Piece} {a b : Nat} (hps : WellCut ps)
    (h : LiteralSpan ps a b) : ClosedLiteral (rawText ps) a b := by
  obtain ⟨before, contents, after, rfl, rfl, rfl⟩ := h
  obtain ⟨k, hk⟩ := hps.even_count_before
  have hcontents : quoteMark ∉ contents := hps.right.1
  have hopen : rawText (before ++ .literal contents :: after) =
      rawText before ++ quoteMark :: (contents ++ quoteMark :: rawText after) := by
    rw [rawText_append, rawText_literal]
  have hclose : rawText (before ++ .literal contents :: after) =
      (rawText before ++ quoteMark :: contents) ++ quoteMark :: rawText after := by
    rw [hopen, List.append_assoc, List.cons_append]
  have hlength : (rawText before).length + contents.length + 1 =
      (rawText before ++ quoteMark :: contents).length := by
    rw [List.length_append, List.length_cons, Nat.add_assoc]
  refine ⟨?_, ?_, k, ?_, ?_⟩
  · rw [hopen, List.getElem?_append_right (Nat.le_refl _), Nat.sub_self, List.getElem?_cons_zero]
  · rw [hlength, hclose, List.getElem?_append_right (Nat.le_refl _), Nat.sub_self,
      List.getElem?_cons_zero]
  · rw [hopen, List.take_left, hk]
  · rw [hlength, hclose, List.take_left, List.count_append, List.count_cons_self, hk,
      List.count_eq_zero.2 hcontents]

/-- The closed literals of a line are its literal pieces. -/
theorem closedLiteral_rawText {ps : List Piece} (h : WellCut ps) {a b : Nat} :
    ClosedLiteral (rawText ps) a b ↔ LiteralSpan ps a b := by
  refine ⟨fun hlit => ?_, fun hspan => hspan.closedLiteral h⟩
  obtain ⟨hlt, -⟩ := List.getElem?_eq_some_iff.1 hlit.opens
  by_cases hinside : InsidePiece Piece.raw ps a
  · obtain ⟨a', b', hspan, hlt, hle⟩ := insidePiece_raw_iff.1 hinside
    obtain ⟨rfl, rfl⟩ := hlit.eq_of_opens_in (hspan.closedLiteral h) (Nat.le_of_lt hlt) hle
    exact hspan
  · obtain ⟨before, p, after, rfl, rfl⟩ := (startsPiece_iff Piece.raw_ne_nil).2 ⟨hlt, hinside⟩
    cases p with
    | plain c =>
      have hfree : FreeAt _ _ c := (freeAt_rawText h).2 ⟨before, after, rfl, rfl⟩
      exact absurd ⟨_, b, hlit, Nat.le_refl _, Nat.le_of_lt hlit.lt⟩ hfree.2
    | literal contents =>
      have hspan : LiteralSpan (before ++ .literal contents :: after) _ _ :=
        ⟨before, contents, after, rfl, rfl, rfl⟩
      have hclosed := hspan.closedLiteral h
      obtain ⟨-, rfl⟩ := hlit.eq_of_opens_in hclosed (Nat.le_refl _) (Nat.le_of_lt hclosed.lt)
      exact hspan

/-! ## The cut -/

/-- A `#` at a column can start the comment of a line. With strings first it must stand outside of
all closed literals. -/
def StartsComment (order : MaskOrder) (text : Line) (column : Nat) : Prop :=
  match order with
  | .stringsFirst => FreeAt text column commentMark
  | .commentFirst => text[column]? = some commentMark

/-- The column where masking cuts a line: the first `#` that can start a comment, or the end of the
line. -/
structure IsCut (order : MaskOrder) (line : Line) (cut : Nat) : Prop where
  first : ∀ column, StartsComment order line column → cut ≤ column
  starts : StartsComment order line cut ∨ cut = line.length

/-- The part of a line in which quotes close each other. -/
def literalPart (order : MaskOrder) (line : Line) (cut : Nat) : Line :=
  match order with
  | .stringsFirst => line
  | .commentFirst => line.take cut

/-- What a masked line shows is the line up to the cut, and the literals there. -/
structure ShownUpTo (order : MaskOrder) (line : Line) (cut : Nat) (ps : List Piece) : Prop where
  isCut : IsCut order line cut
  rawText_eq : rawText ps = line.take cut
  length_eq : (rawText ps).length = cut
  literalSpan_iff : ∀ a b, LiteralSpan ps a b ↔
    ClosedLiteral (literalPart order line cut) a b ∧ a < cut
  shows : (maskLine order line).Shows ps

/-- With strings first, the pieces before the first plain `#` are shown. -/
theorem exists_shownUpTo_stringsFirst (line : Line) :
    ∃ cut ps, ShownUpTo .stringsFirst line cut ps := by
  obtain ⟨ps, hps, rfl⟩ := exists_wellCut line
  obtain ⟨shown, hshown⟩ : ∃ shown, ps.takeWhile Piece.isShown = shown := ⟨_, rfl⟩
  obtain ⟨hidden, hhidden⟩ : ∃ hidden, ps.dropWhile Piece.isShown = hidden := ⟨_, rfl⟩
  have hsplit : ps = shown ++ hidden := by
    rw [← hshown, ← hhidden, List.takeWhile_append_dropWhile]
  have hshows := shows_stringsFirst hps
  rw [hshown] at hshows
  have hall : ∀ p ∈ shown, p.isShown = true := fun p hp => List.mem_takeWhile_imp (hshown ▸ hp)
  refine ⟨(rawText shown).length, shown, ⟨?_, ?_⟩, ?_, rfl, fun a b => ?_, hshows⟩
  · rw [hsplit] at hps ⊢
    exact (forall_isShown_iff hps).1 hall
  · cases hidden with
    | nil =>
      rw [List.append_nil] at hsplit
      exact .inr (by rw [hsplit])
    | cons p hidden =>
      have hp : p.isShown = false := by
        have := List.head?_dropWhile_not Piece.isShown ps
        rw [hhidden] at this
        simpa using this
      obtain rfl : p = .plain commentMark := by simpa [Piece.isShown] using hp
      exact .inl ((freeAt_rawText hps).2 ⟨shown, hidden, hsplit, rfl⟩)
  · rw [hsplit, rawText_append, List.take_left]
  · show _ ↔ ClosedLiteral (rawText ps) a b ∧ _
    rw [closedLiteral_rawText hps, hsplit, literalSpan_append]

/-- With the comment first, a line is cut at its first `#`. -/
theorem isCut_commentFirst (line : Line) : IsCut .commentFirst line (cutComment line).length := by
  have hsplit : cutComment line ++ line.dropWhile (· != commentMark) = line :=
    List.takeWhile_append_dropWhile
  refine ⟨fun column hmark => ?_, ?_⟩
  · by_contra hlt
    have hmem : commentMark ∈ cutComment line := by
      refine List.mem_of_getElem? (i := column) ?_
      rw [← List.getElem?_append_left (Nat.lt_of_not_le hlt), hsplit]
      exact hmark
    exact absurd (List.mem_takeWhile_imp hmem) (by decide)
  · cases hbehind : line.dropWhile (· != commentMark) with
    | nil =>
      rw [hbehind, List.append_nil] at hsplit
      exact .inr (congrArg List.length hsplit)
    | cons c rest =>
      have hc := List.head?_dropWhile_not (· != commentMark) line
      rw [hbehind] at hc
      obtain rfl : c = commentMark := by simpa using hc
      rw [hbehind] at hsplit
      have hget : (cutComment line ++ commentMark :: rest)[(cutComment line).length]? =
          some commentMark := by simp
      rw [hsplit] at hget
      exact .inl hget

/-- With the comment first, the pieces of the line before its first `#` are shown. -/
theorem exists_shownUpTo_commentFirst (line : Line) :
    ∃ cut ps, ShownUpTo .commentFirst line cut ps := by
  obtain ⟨ps, hps, hraw⟩ := exists_wellCut (cutComment line)
  have htake : line.take (cutComment line).length = cutComment line :=
    (List.prefix_iff_eq_take.1 (List.takeWhile_prefix _)).symm
  refine ⟨(cutComment line).length, ps, isCut_commentFirst line, ?_, ?_, fun a b => ?_,
    shows_commentFirst hps hraw⟩
  · rw [hraw, htake]
  · rw [hraw]
  · have hall := @literalSpan_append ps [] a b
    rw [List.append_nil] at hall
    show _ ↔ ClosedLiteral (line.take _) a b ∧ _
    rw [htake, ← hraw, closedLiteral_rawText hps, hall]

/-- Every line is shown up to its cut. -/
theorem exists_shownUpTo (order : MaskOrder) (line : Line) :
    ∃ cut ps, ShownUpTo order line cut ps := by
  cases order with
  | stringsFirst => exact exists_shownUpTo_stringsFirst line
  | commentFirst => exact exists_shownUpTo_commentFirst line

/-! ## Columns of the two texts -/

section
variable {m : MaskedLine} {ps : List Piece}

/-- The raw column of a piece's start is the start of the piece in the line, with the same
character. -/
theorem MaskedLine.Shows.rawColumn_of_split (h : m.Shows ps) {before after : List Piece} {p : Piece}
    (hps : ps = before ++ p :: after) :
    m.rawColumn (maskedText before).length = (rawText before).length ∧
      m.raw[(rawText before).length]? = m.text[(maskedText before).length]? := by
  subst hps
  refine ⟨h.rawColumn_eq before (List.prefix_append _ _), ?_⟩
  obtain ⟨hidden, hraw⟩ := h.raw_prefix
  rw [h.text_eq, ← hraw, rawText_append, maskedText_append, List.append_assoc,
    List.getElem?_append_right (Nat.le_refl _), List.getElem?_append_right (Nat.le_refl _),
    Nat.sub_self, Nat.sub_self]
  cases p <;> simp

/-- The columns of the masked text that start a piece reach the columns of the line that do. -/
theorem MaskedLine.Shows.exists_rawColumn_eq_iff (h : m.Shows ps) {r : Nat} :
    (∃ c : Nat, StartsPiece Piece.masked ps c ∧ m.rawColumn c = r) ↔
      StartsPiece Piece.raw ps r := by
  constructor
  · rintro ⟨c, ⟨before, p, after, hps, rfl⟩, hcolumn⟩
    refine ⟨before, p, after, hps, ?_⟩
    exact Int.ofNat_inj.1 ((h.rawColumn_of_split hps).1.symm.trans hcolumn)
  · rintro ⟨before, p, after, hps, rfl⟩
    exact ⟨_, ⟨before, p, after, hps, rfl⟩, (h.rawColumn_of_split hps).1⟩

end

/-- **Masking projects a line.** The masked text is the line up to the cut with each literal
replaced by two quotes. Raw columns grow strictly, the one of the end of the text is the cut, and
except for the second character of a placeholder each character of the text stands in the line at
its raw column. These columns reach all columns of the line before the cut that do not lie behind
the opening quote of a literal, up to its closing quote. -/
theorem mask_projects_line (order : MaskOrder) (raw : Line) :
    ∃ (cut : Nat) (ps : List Piece), IsCut order raw cut ∧
      (rawText ps = raw.take cut ∧
        (∀ a b, LiteralSpan ps a b ↔ ClosedLiteral (literalPart order raw cut) a b ∧ a < cut) ∧
        (maskLine order raw).text = maskedText ps) ∧
      (∀ x y : Int, x < y → (maskLine order raw).rawColumn x < (maskLine order raw).rawColumn y) ∧
      (maskLine order raw).rawColumn (maskLine order raw).text.length = cut ∧
      (∀ c : Nat, c < (maskLine order raw).text.length → ¬ PlaceholderEnd ps c →
        ∃ r : Nat, (maskLine order raw).rawColumn c = r ∧
          raw[r]? = (maskLine order raw).text[c]?) ∧
      ∀ r : Nat,
        (∃ c : Nat, c < (maskLine order raw).text.length ∧ ¬ PlaceholderEnd ps c ∧
          (maskLine order raw).rawColumn c = r) ↔
        r < cut ∧ ¬ ∃ a b, ClosedLiteral (literalPart order raw cut) a b ∧ a < r ∧ r ≤ b := by
  obtain ⟨cut, ps, h⟩ := exists_shownUpTo order raw
  have hstarts : ∀ c : Nat, StartsPiece Piece.masked ps c ↔
      c < (maskLine order raw).text.length ∧ ¬ PlaceholderEnd ps c := by
    intro c
    rw [startsPiece_iff Piece.masked_ne_nil, insidePiece_masked_iff, h.shows.text_eq]
    rfl
  refine ⟨cut, ps, h.isCut, ⟨h.rawText_eq, h.literalSpan_iff, h.shows.text_eq⟩,
    fun x y hxy => rawColumn_lt_rawColumn order raw hxy, ?_, fun c hc hend => ?_, fun r => ?_⟩
  · rw [h.shows.text_eq, h.shows.rawColumn_eq ps (List.prefix_refl ps), h.length_eq]
  · obtain ⟨before, p, after, hps, rfl⟩ := (hstarts c).2 ⟨hc, hend⟩
    have hcolumn := h.shows.rawColumn_of_split hps
    rw [raw_maskLine] at hcolumn
    exact ⟨_, hcolumn⟩
  · have hreach : (∃ c : Nat, StartsPiece Piece.masked ps c ∧
        (maskLine order raw).rawColumn c = r) ↔
        r < cut ∧ ¬ ∃ a b, LiteralSpan ps a b ∧ a < r ∧ r ≤ b := by
      rw [h.shows.exists_rawColumn_eq_iff, startsPiece_iff Piece.raw_ne_nil, insidePiece_raw_iff,
        ← h.length_eq]
      rfl
    simp only [hstarts, and_assoc] at hreach
    rw [hreach]
    refine and_congr_right fun hr => not_congr ?_
    simp only [h.literalSpan_iff]
    constructor
    · rintro ⟨a, b, ⟨hlit, -⟩, har, hrb⟩
      exact ⟨a, b, hlit, har, hrb⟩
    · rintro ⟨a, b, hlit, har, hrb⟩
      exact ⟨a, b, ⟨hlit, Nat.lt_trans har hr⟩, har, hrb⟩

end ScriptLint
