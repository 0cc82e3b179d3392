import ScriptLint.Proofs.Projection

/-!
# Where the two orders of masking agree

With the comment first, a line is cut at its first `#` and quotes close each other before the cut
only; with strings first they close each other over the whole line, so that the first `#` may stand
in a literal. Outside of literals both orders cut the line at the same place, and a literal is
closed before the cut or not at all (`SplitAtMark.masksAlike`). Inside of one, strings first shows
the whole literal as a placeholder, and comment first shows an open quote and what stands behind it
(`not_masksAlike`).

`mask_orders_agree` states this as an equivalence. Where the texts are the same, the shifts of the
two need not be: with strings first, the literals of the comment leave shifts too. They take effect
behind the text, so that the columns of the text are taken back alike.

A masked text is one on which the orders agree in particular: it has no `#` and no contents of
literals left (`IsMasked`), and `mask_masked_text` says that masking it once more changes nothing.
-/

namespace ScriptLint

/-- The first `#` of a line stands at a column. -/
structure FirstMark (text : Line) (column : Nat) : Prop where
  marked : text[column]? = some commentMark
  first : commentMark ∉ text.take column

/-- A line with a `#` has a first one. -/
theorem exists_firstMark {text : Line} (h : commentMark ∈ text) :
    ∃ column, FirstMark text column := by
  obtain ⟨front, rest, rfl, hfront⟩ := List.eq_append_cons_of_mem h
  refine ⟨front.length, ?_, ?_⟩
  · simp
  · rwa [List.take_left]

/-- Both orders of masking show the same text of a line. -/
def MasksAlike (line : Line) : Prop :=
  (maskLine .stringsFirst line).text = (maskLine .commentFirst line).text

/-! ## The first mark outside of literals -/

/-- Pieces without a `#` in their text are shown. -/
theorem isShown_of_commentMark_notMem {qs : List Piece} (h : commentMark ∉ rawText qs) :
    ∀ p ∈ qs, p.isShown = true := by
  intro p hp
  by_contra hhidden
  obtain rfl : p = .plain commentMark := by simpa [Piece.isShown] using hhidden
  exact h (List.mem_flatMap.2 ⟨_, hp, List.mem_singleton_self _⟩)

/-- The pieces of a line, cut at its first `#`: none before the cut has one, and behind the cut is
the `#` as a piece, or nothing. -/
structure SplitAtMark (line : Line) (qs rs : List Piece) : Prop where
  wellCut : WellCut (qs ++ rs)
  rawText_eq : rawText (qs ++ rs) = line
  unmarked : commentMark ∉ rawText qs
  behind : rs = [] ∨ ∃ rs', rs = .plain commentMark :: rs'

/-- A line whose first `#` is outside of all literals is cut there. -/
theorem exists_splitAtMark {line : Line}
    (h : commentMark ∉ line ∨ ∃ column, FirstMark line column ∧ ¬ InLiteral line column) :
    ∃ qs rs, SplitAtMark line qs rs := by
  obtain ⟨ps, hps, rfl⟩ := exists_wellCut line
  rcases h with h | ⟨column, hmark, hfree⟩
  · exact ⟨ps, [], by rwa [List.append_nil], by rw [List.append_nil], h, .inl rfl⟩
  · obtain ⟨qs, rs, rfl, rfl⟩ := (freeAt_rawText hps).1 ⟨hmark.marked, hfree⟩
    refine ⟨qs, .plain commentMark :: rs, hps, rfl, ?_, .inr ⟨rs, rfl⟩⟩
    have hfirst := hmark.first
    rwa [rawText_append, List.take_left] at hfirst

section
variable {line : Line} {qs rs : List Piece}

/-- With strings first, the pieces before the first `#` are shown. -/
theorem SplitAtMark.takeWhile_isShown (h : SplitAtMark line qs rs) :
    (qs ++ rs).takeWhile Piece.isShown = qs := by
  rw [List.takeWhile_append_of_pos (isShown_of_commentMark_notMem h.unmarked)]
  rcases h.behind with rfl | ⟨rs', rfl⟩
  · simp
  · simp [Piece.isShown]

/-- With the comment first, the text of the pieces before the first `#` is left. -/
theorem SplitAtMark.cutComment_eq (h : SplitAtMark line qs rs) : cutComment line = rawText qs := by
  rw [← h.rawText_eq, rawText_append, cutComment_append h.unmarked]
  rcases h.behind with rfl | ⟨rs', rfl⟩
  · simp [cutComment]
  · simp [cutComment]

/-- Both orders of masking show the pieces before the first `#`. -/
theorem SplitAtMark.shows (h : SplitAtMark line qs rs) (order : MaskOrder) :
    (maskLine order line).Shows qs := by
  cases order with
  | stringsFirst =>
    have hshows := shows_stringsFirst h.wellCut
    rwa [h.takeWhile_isShown, h.rawText_eq] at hshows
  | commentFirst => exact shows_commentFirst h.wellCut.left h.cutComment_eq.symm

/-- A line that splits at its comment mark is masked alike in both orders. -/
theorem SplitAtMark.masksAlike (h : SplitAtMark line qs rs) : MasksAlike line := by
  rw [MasksAlike, (h.shows .stringsFirst).text_eq, (h.shows .commentFirst).text_eq]

/-- With strings first there are the shifts that there are with the comment first, and others that
take effect behind the text. -/
theorem SplitAtMark.exists_shifts_eq_append (h : SplitAtMark line qs rs) :
    ∃ later, (maskLine .stringsFirst line).shifts = (maskLine .commentFirst line).shifts ++ later ∧
      ∀ s ∈ later, ((maskLine .stringsFirst line).text.length : Int) < s.start := by
  have hstrings : (maskLine .stringsFirst line).shifts = pieceShifts 0 0 (qs ++ rs) := by
    rw [← h.rawText_eq]
    exact shiftsFrom_rawText h.wellCut 0 0
  have hcomment : (maskLine .commentFirst line).shifts = pieceShifts 0 0 qs := by
    show shiftsFrom false 0 0 (cutComment line) = _
    rw [h.cutComment_eq, shiftsFrom_rawText h.wellCut.left]
  rw [hstrings, hcomment, pieceShifts_append, (h.shows .stringsFirst).text_eq, Nat.zero_add]
  exact ⟨_, rfl, fun s hs => (start_of_mem_pieceShifts hs).1⟩

/-- A column of the text, or the column at its end, is taken back alike in both orders. -/
theorem SplitAtMark.rawColumn_eq (h : SplitAtMark line qs rs) {x : Int}
    (hx : x ≤ (maskLine .stringsFirst line).text.length) :
    (maskLine .stringsFirst line).rawColumn x = (maskLine .commentFirst line).rawColumn x := by
  obtain ⟨later, hshifts, hlater⟩ := h.exists_shifts_eq_append
  rw [rawColumn_eq_add, rawColumn_eq_add, hshifts, removedBefore_append]
  intro s hs
  exact Int.lt_of_le_of_lt hx (hlater s hs)

end

/-! ## The first mark in a literal -/

/-- Characters that are no quotes are cut well as plain pieces. -/
theorem wellCut_map_plain {cs : List Char} (h : quoteMark ∉ cs) : WellCut (cs.map .plain) := by
  induction cs with
  | nil => trivial
  | cons c cs ih =>
    obtain ⟨hc, hcs⟩ := not_or.1 (mt List.mem_cons.2 h)
    exact ⟨fun heq => absurd heq.symm hc, ih hcs⟩

/-- Among pieces, a first `#` in a literal has the part of the literal before it without another. -/
theorem exists_literal_of_inLiteral {line : Line} {column : Nat} (hmark : FirstMark line column)
    (hin : InLiteral line column) :
    ∃ before shown hidden after,
      WellCut (before ++ .literal (shown ++ commentMark :: hidden) :: after) ∧
      rawText (before ++ .literal (shown ++ commentMark :: hidden) :: after) = line ∧
      commentMark ∉ rawText before ∧ commentMark ∉ shown := by
  obtain ⟨ps, hps, rfl⟩ := exists_wellCut line
  obtain ⟨a, b, hlit, hle, hle'⟩ := hin
  obtain ⟨before, contents, after, rfl, rfl, rfl⟩ := (closedLiteral_rawText hps).1 hlit
  have hmarked := hmark.marked
  -- neither of the two quotes is the `#`, so that it stands between them
  have hopen : (rawText before).length ≠ column := by
    rintro rfl
    rw [hlit.opens] at hmarked
    cases hmarked
  have hclose : (rawText before).length + contents.length + 1 ≠ column := by
    rintro rfl
    rw [hlit.closes] at hmarked
    cases hmarked
  have hmem : commentMark ∈ contents := by
    obtain ⟨k, rfl⟩ := Nat.exists_eq_add_of_le (show (rawText before).length + 1 ≤ column by omega)
    rw [rawText_append, rawText_literal, Nat.add_assoc,
      List.getElem?_append_right (Nat.le_add_right _ _), Nat.add_sub_cancel_left, Nat.add_comm 1,
      List.getElem?_cons_succ, List.getElem?_append_left (by omega)] at hmarked
    exact List.mem_of_getElem? hmarked
  obtain ⟨shown, hidden, rfl, hshown⟩ := List.eq_append_cons_of_mem hmem
  refine ⟨before, shown, hidden, after, hps, rfl, ?_, hshown⟩
  intro hbefore
  refine hmark.first ((List.take_sublist_take_left hle).subset ?_)
  rwa [rawText_append, List.take_left]

/-- If the first `#` stands in a literal, the two orders show different texts: behind the quote that
opens the literal, strings first shows another quote. -/
theorem not_masksAlike {line : Line} {column : Nat} (hmark : FirstMark line column)
    (hin : InLiteral line column) : ¬ MasksAlike line := by
  obtain ⟨before, shown, hidden, after, hps, rfl, hbefore, hshown⟩ :=
    exists_literal_of_inLiteral hmark hin
  have hquote : quoteMark ∉ shown := by
    intro hmem
    exact hps.right.1 (List.mem_append_left _ hmem)
  -- before the cut the literal is not closed, so that its quote is a plain piece
  have hcut : rawText (before ++ .plain quoteMark :: shown.map .plain) =
      cutComment (rawText (before ++ .literal (shown ++ commentMark :: hidden) :: after)) := by
    have hfront : commentMark ∉ rawText before ++ quoteMark :: shown := by
      simp only [List.mem_append, List.mem_cons, not_or]
      exact ⟨hbefore, by decide, hshown⟩
    have hline : rawText (before ++ .literal (shown ++ commentMark :: hidden) :: after) =
        (rawText before ++ quoteMark :: shown) ++
          commentMark :: (hidden ++ quoteMark :: rawText after) := by simp
    rw [hline, cutComment_append hfront]
    simp [cutComment]
  have hwell : WellCut (before ++ .plain quoteMark :: shown.map .plain) := by
    obtain ⟨k, hk⟩ := hps.even_count_before
    refine hps.left.append (hps.left.plain_quoteMark_notMem (by omega))
      ⟨?_, wellCut_map_plain hquote⟩
    intro _
    rwa [rawText_map_plain]
  have hall := isShown_of_commentMark_notMem hbefore
  intro halike
  rw [MasksAlike, (shows_stringsFirst hps).text_eq, (shows_commentFirst hwell hcut).text_eq,
    List.takeWhile_append_of_pos hall, List.takeWhile_cons_of_pos rfl, maskedText_append,
    maskedText_append, maskedText_literal, maskedText_plain, maskedText_map_plain] at halike
  have hbehind := (List.cons.inj (List.append_cancel_left halike)).2
  exact hquote (hbehind ▸ List.mem_cons_self)

/-! ## The orders of masking -/

/-- **When the two orders of masking agree.** They show the same text of a line if and only if the
line has no `#`, or its first `#` stands outside of all closed literals of the line. Then with
strings first there are the shifts that there are with the comment first, perhaps others behind
them, and every column up to the end of the text has the same raw column in both orders. -/
theorem mask_orders_agree :
    (∀ line : Line,
      ((maskLine .stringsFirst line).text = (maskLine .commentFirst line).text ↔
        commentMark ∉ line ∨ ∃ column, FirstMark line column ∧ ¬ InLiteral line column) ∧
      ((maskLine .stringsFirst line).text = (maskLine .commentFirst line).text →
        (maskLine .commentFirst line).shifts <+: (maskLine .stringsFirst line).shifts ∧
        ∀ x : Int, x ≤ (maskLine .stringsFirst line).text.length →
          (maskLine .stringsFirst line).rawColumn x = (maskLine .commentFirst line).rawColumn x)) ∧
    ∃ line : Line, (maskLine .stringsFirst line).text = (maskLine .commentFirst line).text ∧
      (maskLine .stringsFirst line).shifts ≠ (maskLine .commentFirst line).shifts := by
  have hiff (line : Line) : MasksAlike line ↔
      commentMark ∉ line ∨ ∃ column, FirstMark line column ∧ ¬ InLiteral line column := by
    refine ⟨fun halike => ?_, fun h => ?_⟩
    · by_cases hmem : commentMark ∈ line
      · obtain ⟨column, hmark⟩ := exists_firstMark hmem
        exact .inr ⟨column, hmark, fun hin => not_masksAlike hmark hin halike⟩
      · exact .inl hmem
    · obtain ⟨qs, rs, hsplit⟩ := exists_splitAtMark h
      exact hsplit.masksAlike
  refine ⟨fun line => ⟨hiff line, fun halike => ?_⟩, "f # \"a\"".toList, ?_⟩
  · obtain ⟨qs, rs, hsplit⟩ := exists_splitAtMark ((hiff line).1 halike)
    obtain ⟨later, hshifts, -⟩ := hsplit.exists_shifts_eq_append
    exact ⟨⟨later, hshifts.symm⟩, fun x hx => hsplit.rawColumn_eq hx⟩
  · decide +kernel

/-- Behind a literal and a comment with another one, the columns of the text are taken back
alike. -/
theorem mask_orders_agree_around_mark :
    (maskLine .stringsFirst "f(\"abc\") # \"de\"".toList).text = "f(\"\") ".toList ∧
    (maskLine .commentFirst "f(\"abc\") # \"de\"".toList).text = "f(\"\") ".toList ∧
    ∀ x : Int, x ≤ 6 →
      (maskLine .stringsFirst "f(\"abc\") # \"de\"".toList).rawColumn x =
        (maskLine .commentFirst "f(\"abc\") # \"de\"".toList).rawColumn x := by
  have hstrings : (maskLine .stringsFirst "f(\"abc\") # \"de\"".toList).text =
      "f(\"\") ".toList := by
    decide +kernel
  have hcomment : (maskLine .commentFirst "f(\"abc\") # \"de\"".toList).text =
      "f(\"\") ".toList := by
    decide +kernel
  refine ⟨hstrings, hcomment, ?_⟩
  have halike := ((mask_orders_agree.1 _).2 (hstrings.trans hcomment.symm)).2
  rwa [hstrings] at halike

/-! ## Masking once more -/

/-- A piece with nothing that masking could remove. -/
def Piece.emptied : Piece → Piece
  | .plain c => .plain c
  | .literal _ => .literal []

/-- A piece without its contents is written as it is masked. -/
@[simp] theorem Piece.raw_emptied (p : Piece) : p.emptied.raw = p.masked := by cases p <;> rfl

/-- A piece without its contents is masked as before. -/
@[simp] theorem Piece.masked_emptied (p : Piece) : p.emptied.masked = p.masked := by cases p <;> rfl

/-- Without the contents of their literals, pieces stand in a line as masking shows them. -/
theorem rawText_map_emptied (ps : List Piece) : rawText (ps.map Piece.emptied) = maskedText ps := by
  simp [rawText, maskedText, List.flatMap_map]

/-- Pieces without their contents have the same masked text. -/
theorem maskedText_map_emptied (ps : List Piece) :
    maskedText (ps.map Piece.emptied) = maskedText ps := by
  simp [maskedText, List.flatMap_map]

/-- Empty literals leave no shift. -/
theorem pieceShifts_map_emptied (column : Nat) (ps : List Piece) :
    pieceShifts column 0 (ps.map Piece.emptied) = [] := by
  induction ps generalizing column with
  | nil => rfl
  | cons p ps ih =>
    cases p with
    | plain c => exact ih (column + 1)
    | literal contents => exact ih (column + 2)

/-- Masking shows no character that is not in the line. -/
theorem mem_rawText_of_mem_maskedText {c : Char} {ps : List Piece} (h : c ∈ maskedText ps) :
    c ∈ rawText ps := by
  obtain ⟨p, hp, hc⟩ := List.mem_flatMap.1 h
  refine List.mem_flatMap.2 ⟨p, hp, ?_⟩
  cases p with
  | plain d => exact hc
  | literal contents =>
    obtain rfl : c = quoteMark := by simpa [Piece.masked] using hc
    exact List.mem_cons_self

/-- A quote that nothing closes in the line is closed by no placeholder either. -/
theorem WellCut.map_emptied {ps : List Piece} (h : WellCut ps) :
    WellCut (ps.map Piece.emptied) := by
  induction ps with
  | nil => trivial
  | cons p ps ih =>
    cases p with
    | plain c =>
      refine ⟨fun hc hmem => ?_, ih h.2⟩
      rw [rawText_map_emptied] at hmem
      exact h.1 hc (mem_rawText_of_mem_maskedText hmem)
    | literal contents => exact ⟨List.not_mem_nil, ih h.2⟩

/-- A text that masking can leave behind: it has no `#`, and it is what masking shows of some
pieces. -/
structure IsMasked (text : List Char) : Prop where
  unmarked : commentMark ∉ text
  exists_pieces : ∃ ps, WellCut ps ∧ maskedText ps = text

/-- No comment mark is left before a comment. -/
theorem commentMark_notMem_cutComment (text : List Char) : commentMark ∉ cutComment text := by
  intro hmem
  have hne := List.mem_takeWhile_imp hmem
  simp at hne

/-- Both orders of masking leave such a text behind. -/
theorem isMasked_text_maskLine (order : MaskOrder) (line : Line) :
    IsMasked (maskLine order line).text := by
  refine ⟨?_, ?_⟩
  · cases order with
    | stringsFirst => exact commentMark_notMem_cutComment _
    | commentFirst =>
      obtain ⟨ps, hps, hraw⟩ := exists_wellCut (cutComment line)
      rw [(shows_commentFirst hps hraw).text_eq]
      intro hmem
      exact commentMark_notMem_cutComment line (hraw ▸ mem_rawText_of_mem_maskedText hmem)
  · obtain ⟨ps, hps, hshows⟩ := exists_shows_maskLine order line
    exact ⟨ps, hps, hshows.text_eq.symm⟩

/-- Nothing is left to mask in such a text. -/
theorem IsMasked.maskLine_eq {text : List Char} (h : IsMasked text) (order : MaskOrder) :
    maskLine order text = ⟨text, text, []⟩ := by
  have hcut : cutComment text = text := by
    have happend := cutComment_append h.unmarked []
    rwa [List.append_nil, show cutComment [] = [] from rfl, List.append_nil] at happend
  obtain ⟨ps, hps, rfl⟩ := h.exists_pieces
  have hhide : hideStrings (maskedText ps) = maskedText ps := by
    have hraw := hideStrings_rawText hps.map_emptied
    rwa [rawText_map_emptied, maskedText_map_emptied] at hraw
  have hshifts : shiftsFrom false 0 0 (maskedText ps) = [] := by
    have hraw := shiftsFrom_rawText hps.map_emptied 0 0
    rwa [rawText_map_emptied, pieceShifts_map_emptied] at hraw
  cases order with
  | stringsFirst =>
    show MaskedLine.mk _ (cutComment (hideStrings _)) (shiftsFrom false 0 0 _) = _
    rw [hhide, hcut, hshifts]
  | commentFirst =>
    show MaskedLine.mk _ (hideStrings (cutComment _)) (shiftsFrom false 0 0 (cutComment _)) = _
    rw [hcut, hhide, hshifts]

/-- **Masking a masked text changes nothing.** Whichever order a line was masked in, its masked text
has no `#`, and both orders of masking show the same text again, without shifts, so that every
column of it stays where it is. -/
theorem mask_masked_text (order order' : MaskOrder) (line : Line) :
    commentMark ∉ (maskLine order line).text ∧
    (maskLine order' (maskLine order line).text).text = (maskLine order line).text ∧
    (maskLine order' (maskLine order line).text).shifts = [] ∧
    ∀ column : Int, (maskLine order' (maskLine order line).text).rawColumn column = column := by
  have hmasked := isMasked_text_maskLine order line
  rw [hmasked.maskLine_eq order']
  exact ⟨hmasked.unmarked, rfl, rfl, fun _ => rfl⟩

end ScriptLint
