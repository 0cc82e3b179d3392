import ScriptLint.Proofs.Mask

/-!
# Closed literals, counted

The quotes of a line, counted from the left, close each other in pairs: quote number `2k + 1` opens
a literal and quote number `2k + 2` closes it (`ClosedLiteral`). A character outside of all these
pairs is free (`FreeAt`). `freeAt_rawText` says that the free characters of a line are the plain
pieces that masking leaves, so what is said of free characters of the line can be proved on its
pieces; `forall_isShown_iff` does so for the comment, which starts with the first free `#`.
-/

namespace ScriptLint

/-- The quotes at columns `a` and `b` of a line are a closed literal: counted over the whole line,
they are quotes number `2k + 1` and `2k + 2`. -/
structure ClosedLiteral (text : Line) (a b : Nat) : Prop where
  opens : text[a]? = some quoteMark
  closes : text[b]? = some quoteMark
  counts : ∃ k, (text.take a).count quoteMark = 2 * k ∧ (text.take b).count quoteMark = 2 * k + 1

/-- A column lies in a closed literal, its two quotes included. -/
def InLiteral (text : Line) (column : Nat) : Prop :=
  ∃ a b, ClosedLiteral text a b ∧ a ≤ column ∧ column ≤ b

/-- A character stands at a column outside of all closed literals. -/
def FreeAt (text : Line) (column : Nat) (c : Char) : Prop :=
  text[column]? = some c ∧ ¬ InLiteral text column

/-! ## Counting quotes -/

/-- A quote is one more than the quotes before it. -/
theorem count_take_succ {text : Line} {a : Nat} (h : text[a]? = some quoteMark) :
    (text.take (a + 1)).count quoteMark = (text.take a).count quoteMark + 1 := by
  rw [List.take_add_one, h, List.count_append]
  rfl

/-- The number of quotes grows from left to right. -/
theorem count_take_le (text : Line) {a b : Nat} (h : a ≤ b) :
    (text.take a).count quoteMark ≤ (text.take b).count quoteMark :=
  (List.take_sublist_take_left h).count_le _

/-- A line with at most one quote has no closed literal. -/
theorem not_inLiteral_of_count_le_one {text : Line} {column : Nat}
    (h : text.count quoteMark ≤ 1) : ¬ InLiteral text column := by
  rintro ⟨a, b, hlit, -, -⟩
  obtain ⟨k, -, hb⟩ := hlit.counts
  have hsucc := count_take_succ hlit.closes
  have hle := (List.take_sublist (b + 1) text).count_le quoteMark
  omega

/-- A front part with an even number of quotes takes no part in the literals behind it. -/
theorem inLiteral_append {front : List Char} {m : Nat} (heven : front.count quoteMark = 2 * m)
    (rest : List Char) (p : Nat) :
    InLiteral (front ++ rest) (front.length + p) ↔ InLiteral rest p := by
  have hcount (a : Nat) : ((front ++ rest).take (front.length + a)).count quoteMark =
      2 * m + (rest.take a).count quoteMark := by
    rw [List.take_length_add_append, List.count_append, heven]
  have hget (a : Nat) : (front ++ rest)[front.length + a]? = rest[a]? := by
    rw [List.getElem?_append_right (Nat.le_add_right _ _), Nat.add_sub_cancel_left]
  constructor
  · rintro ⟨a, b, hlit, hap, hpb⟩
    obtain ⟨k, ha, hb⟩ := hlit.counts
    have hfront : front.length ≤ a := by
      by_contra hlt
      -- no quote lies between the two of the literal, so the front part would end inside it
      have hsucc := count_take_succ hlit.opens
      have hlow := count_take_le (front ++ rest) (by omega : a + 1 ≤ front.length + 0)
      have hhigh := count_take_le (front ++ rest) (by omega : front.length + 0 ≤ b)
      rw [hcount, List.take_zero, List.count_nil] at hlow hhigh
      omega
    obtain ⟨a, rfl⟩ := Nat.exists_eq_add_of_le hfront
    obtain ⟨b, rfl⟩ := Nat.exists_eq_add_of_le (show front.length ≤ b by omega)
    rw [hcount] at ha hb
    exact ⟨a, b, ⟨hget a ▸ hlit.opens, hget b ▸ hlit.closes, k - m, by omega, by omega⟩,
      by omega, by omega⟩
  · rintro ⟨a, b, hlit, hap, hpb⟩
    obtain ⟨k, ha, hb⟩ := hlit.counts
    refine ⟨front.length + a, front.length + b, ⟨(hget a).trans hlit.opens,
      (hget b).trans hlit.closes, m + k, ?_, ?_⟩, by omega, by omega⟩
    · rw [hcount]; omega
    · rw [hcount]; omega

/-! ## Free characters and pieces -/

/-- Behind a plain character the free characters are those of the rest. -/
theorem freeAt_plain_succ {c d : Char} {ps : List Piece} {p : Nat} (h : WellCut (.plain d :: ps)) :
    FreeAt (rawText (.plain d :: ps)) (p + 1) c ↔ FreeAt (rawText ps) p c := by
  rw [FreeAt, FreeAt, rawText_plain, List.getElem?_cons_succ]
  refine and_congr_right fun _ => not_congr ?_
  by_cases hd : d = quoteMark
  · have hnone : (rawText ps).count quoteMark = 0 := List.count_eq_zero.2 (h.1 hd)
    refine iff_of_false (not_inLiteral_of_count_le_one ?_) (not_inLiteral_of_count_le_one ?_)
    · rw [hd, List.count_cons_self, hnone]
    · rw [hnone]; omega
  · have heven : [d].count quoteMark = 2 * 0 := List.count_eq_zero.2 (by simpa using Ne.symm hd)
    have := inLiteral_append heven (rawText ps) p
    rwa [List.length_singleton, Nat.add_comm 1] at this

/-- A plain character is free. -/
theorem freeAt_plain_zero {c d : Char} {ps : List Piece} (h : WellCut (.plain d :: ps)) :
    FreeAt (rawText (.plain d :: ps)) 0 c ↔ d = c := by
  rw [FreeAt, rawText_plain, List.getElem?_cons_zero, Option.some.injEq, and_iff_left]
  by_cases hd : d = quoteMark
  · refine not_inLiteral_of_count_le_one ?_
    rw [hd, List.count_cons_self, List.count_eq_zero.2 (h.1 hd)]
  · rintro ⟨a, b, hlit, ha, -⟩
    have hopens := hlit.opens
    rw [Nat.le_zero.1 ha, List.getElem?_cons_zero, Option.some.injEq] at hopens
    exact hd hopens

/-- In a closed literal no character is free. -/
theorem freeAt_literal {c : Char} {contents : List Char} {ps : List Piece} {p : Nat}
    (h : quoteMark ∉ contents) : FreeAt (rawText (.literal contents :: ps)) p c ↔
      ∃ q, p = contents.length + 2 + q ∧ FreeAt (rawText ps) q c := by
  have hraw : rawText (.literal contents :: ps) =
      (quoteMark :: (contents ++ [quoteMark])) ++ rawText ps := by simp
  have hlen : (quoteMark :: (contents ++ [quoteMark])).length = contents.length + 2 := by simp
  have hnone : contents.count quoteMark = 0 := List.count_eq_zero.2 h
  have heven : (quoteMark :: (contents ++ [quoteMark])).count quoteMark = 2 * 1 := by
    simp [List.count_append, hnone]
  rcases Nat.lt_or_ge p (contents.length + 2) with hp | hp
  · refine iff_of_false (fun hfree => hfree.2 ⟨0, contents.length + 1, ⟨?_, ?_, 0, ?_, ?_⟩,
      Nat.zero_le p, by omega⟩) (by rintro ⟨q, rfl, -⟩; omega)
    · rw [rawText_literal]; rfl
    · simp
    · rfl
    · simp [hnone]
  · obtain ⟨q, rfl⟩ := Nat.exists_eq_add_of_le hp
    have hiff := inLiteral_append heven (rawText ps) q
    rw [hlen] at hiff
    have hget : (rawText (.literal contents :: ps))[contents.length + 2 + q]? =
        (rawText ps)[q]? := by
      rw [hraw, List.getElem?_append_right (by omega), hlen, Nat.add_sub_cancel_left]
    rw [FreeAt, hget, hraw, hiff]
    constructor
    · exact fun hfree => ⟨q, rfl, hfree⟩
    · rintro ⟨q', heq, hfree⟩
      obtain rfl : q = q' := by omega
      exact hfree

/-- The free characters of a line are its plain pieces. -/
theorem freeAt_rawText {ps : List Piece} (h : WellCut ps) {p : Nat} {c : Char} :
    FreeAt (rawText ps) p c ↔ ∃ qs rs, ps = qs ++ .plain c :: rs ∧ (rawText qs).length = p := by
  induction ps generalizing p with
  | nil =>
    refine iff_of_false (fun hfree => by cases hfree.1) ?_
    rintro ⟨qs, rs, heq, -⟩
    simp at heq
  | cons piece ps ih =>
    cases piece with
    | plain d =>
      cases p with
      | zero =>
        rw [freeAt_plain_zero h]
        constructor
        · rintro rfl
          exact ⟨[], ps, rfl, rfl⟩
        · rintro ⟨qs, rs, heq, hlen⟩
          cases qs with
          | nil => exact Piece.plain.inj (List.cons.inj heq).1
          | cons q qs => cases q <;> simp at hlen
      | succ p =>
        rw [freeAt_plain_succ h, ih h.2]
        constructor
        · rintro ⟨qs, rs, rfl, rfl⟩
          exact ⟨.plain d :: qs, rs, rfl, rfl⟩
        · rintro ⟨qs, rs, heq, hlen⟩
          cases qs with
          | nil => cases hlen
          | cons q qs =>
            obtain ⟨rfl, rfl⟩ := List.cons.inj heq
            exact ⟨qs, rs, rfl, Nat.succ.inj hlen⟩
    | literal contents =>
      rw [freeAt_literal h.1]
      constructor
      · rintro ⟨q, rfl, hfree⟩
        obtain ⟨qs, rs, rfl, rfl⟩ := (ih h.2).1 hfree
        refine ⟨.literal contents :: qs, rs, rfl, ?_⟩
        simp only [rawText_literal, List.length_cons, List.length_append]
        omega
      · rintro ⟨qs, rs, heq, rfl⟩
        cases qs with
        | nil => cases (List.cons.inj heq).1
        | cons q qs =>
          obtain ⟨rfl, rfl⟩ := List.cons.inj heq
          refine ⟨(rawText qs).length, ?_, (ih h.2).2 ⟨qs, rs, rfl, rfl⟩⟩
          simp only [rawText_literal, List.length_cons, List.length_append]
          omega

/-- The pieces before a place are all shown if every free `#` of the line stands behind it. -/
theorem forall_isShown_iff {qs rs : List Piece} (h : WellCut (qs ++ rs)) :
    (∀ p ∈ qs, p.isShown = true) ↔ ∀ column, FreeAt (rawText (qs ++ rs)) column commentMark →
      (rawText qs).length ≤ column := by
  constructor
  · intro hshown column hfree
    obtain ⟨us, vs, heq, rfl⟩ := (freeAt_rawText h).1 hfree
    rcases List.append_eq_append_iff.1 heq with ⟨between, rfl, -⟩ | ⟨between, rfl, hbetween⟩
    · rw [rawText_append, List.length_append]
      exact Nat.le_add_right _ _
    · cases between with
      | nil => rw [List.append_nil]
      | cons p between =>
        obtain ⟨rfl, -⟩ := List.cons.inj hbetween
        exact absurd (hshown _ (List.mem_append_right _ List.mem_cons_self)) (by decide)
  · intro hfree p hp
    by_contra hhidden
    obtain rfl : p = .plain commentMark := by simpa [Piece.isShown] using hhidden
    obtain ⟨us, vs, rfl⟩ := List.append_of_mem hp
    have hle := hfree (rawText us).length ((freeAt_rawText h).2 ⟨us, vs ++ rs, by simp, rfl⟩)
    rw [rawText_append, rawText_plain, List.length_append, List.length_cons] at hle
    omega

/-- A text without quotes that starts outside of all closed literals consists of plain pieces. -/
theorem exists_pieces_of_rawText {ps : List Piece} (h : WellCut ps) {before word after : List Char}
    (heq : rawText ps = before ++ word ++ after) (hne : word ≠ []) (hword : quoteMark ∉ word)
    (hfree : ¬ InLiteral (rawText ps) before.length) :
    ∃ qs rs, ps = qs ++ word.map .plain ++ rs ∧ rawText qs = before ∧ rawText rs = after := by
  obtain ⟨c, word, rfl⟩ := List.exists_cons_of_ne_nil hne
  rw [List.mem_cons, not_or] at hword
  rw [List.append_assoc, List.cons_append] at heq
  have hc : (rawText ps)[before.length]? = some c := by
    rw [heq, List.getElem?_append_right (Nat.le_refl _), Nat.sub_self, List.getElem?_cons_zero]
  obtain ⟨qs, rest, rfl, hlen⟩ := (freeAt_rawText h).1 ⟨hc, hfree⟩
  rw [rawText_append, rawText_plain] at heq
  obtain ⟨hqs, hrest⟩ := List.append_inj heq hlen
  obtain ⟨rs, rfl, hrs⟩ := exists_plain_of_flatMap Piece.raw (fun _ => rfl) (fun _ => ⟨_, rfl⟩)
    (List.cons.inj hrest).2 hword.2
  exact ⟨qs, rs, by simp, hqs, hrs⟩

/-- No character of plain pieces lies in a closed literal. -/
theorem not_inLiteral_of_plain {qs rs : List Piece} {word : List Char}
    (h : WellCut (qs ++ word.map .plain ++ rs)) {p : Nat} (hp : (rawText qs).length ≤ p)
    (hword : p < (rawText qs).length + word.length) :
    ¬ InLiteral (rawText (qs ++ word.map .plain ++ rs)) p := by
  obtain ⟨j, rfl⟩ := Nat.exists_eq_add_of_le hp
  have hj : j < word.length := by omega
  have hsplit : word.take j ++ word[j] :: word.drop (j + 1) = word := by
    rw [← List.drop_eq_getElem_cons hj, List.take_append_drop]
  refine ((freeAt_rawText h).2 ⟨qs ++ (word.take j).map .plain,
    (word.drop (j + 1)).map .plain ++ rs, ?_, ?_⟩ : FreeAt _ _ (word[j])).2
  · conv_lhs => rw [← hsplit, List.map_append, List.map_cons]
    simp only [List.append_assoc, List.cons_append]
  · rw [rawText_append, rawText_map_plain, List.length_append, List.length_take]
    omega

end ScriptLint
