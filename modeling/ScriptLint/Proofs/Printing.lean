import ScriptLint.Proofs.Console
import ScriptLint.Proofs.Directives
import ScriptLint.Proofs.Indentation
import ScriptLint.Proofs.Json.Scalars

/-!
# Printed lines

What the console shows is printed line by line. Tabs are filled up on the way, and nothing else
happens (`printed_of_notMem`). Neither showing nor printing loses or adds a line feed, so that a
text takes one line more than it has of them (`count_lineFeed_shown`, `count_lineFeed_printed`).

A line about a file starts with the name of the file and the number of a line. `IsShownName` says
which names are printed as they are (`printed_name_append_iff`), and `numberMark` what is shown for
the number (`shown_place`).
-/

namespace ScriptLint

namespace Console

/-! ## Line feeds -/

/-- Escapes have no line feeds. -/
theorem count_lineFeed_dropEscapes (cs : List Char) :
    (dropEscapes cs).count '\n' = cs.count '\n' := by
  induction cs using dropEscapes.induct with
  | case1 => rfl
  | case2 cs ih =>
    rw [dropEscapes, List.count_cons_of_ne (by decide), List.count_cons_of_ne (by decide),
      List.count_cons_of_ne (by decide), ih]
  | case3 c cs hpair ih =>
    rw [dropEscapes, List.count_cons, List.count_cons, ih]
    exact hpair

section
variable {emojis : Emojis}

/-- No emoji is shown by a line feed. -/
theorem lineFeed_notMem_of_emojiText? {name text : List Char}
    (h : emojiText? emojis name = some text) : '\n' ∉ text := by
  unfold emojiText? at h
  split at h
  · next ending selector hvariant =>
    obtain ⟨emoji, hemoji, rfl⟩ := Option.map_eq_some_iff.1 h
    have hselector : selector ≠ '\n' := by
      have hmem := List.mem_of_find?_eq_some hvariant
      simp only [variants, List.mem_cons, Prod.mk.injEq, List.not_mem_nil, or_false] at hmem
      rcases hmem with ⟨-, rfl⟩ | ⟨-, rfl⟩ <;> decide
    rw [List.mem_append, List.mem_singleton, not_or]
    exact ⟨emojis.oneLine _ _ hemoji, hselector.symm⟩
  · obtain ⟨emoji, hemoji, rfl⟩ := Option.map_eq_some_iff.1 h
    exact emojis.oneLine _ _ hemoji

/-- The replacement of codes leaves the number of line feeds as it is. -/
theorem count_lineFeed_expandCodes (cs : List Char) :
    (expandCodes emojis 0 true cs).count '\n' = cs.count '\n' := by
  induction cs using codes_induction with
  | nil => rfl
  | code name rest hname ih =>
    have hnone : '\n' ∉ name := fun hmem => by cases (hname _ hmem).2
    have hcount : (':' :: (name ++ ':' :: rest)).count '\n' = rest.count '\n' := by
      rw [List.count_cons_of_ne (by decide), List.count_append, List.count_eq_zero.2 hnone,
        List.count_cons_of_ne (by decide), Nat.zero_add]
    rw [expandCodes_code hname, hcount, List.count_append, ih]
    cases hemoji : emojiText? emojis name with
    | none => simp [List.count_eq_zero.2 hnone]
    | some text => simp [List.count_eq_zero.2 (lineFeed_notMem_of_emojiText? hemoji)]
  | char c cs hcode ih =>
    rw [expandCodes_of_codeName?_eq_none hcode, List.count_cons, List.count_cons, ih]

/-- The console shows as many line feeds as a text has. -/
theorem count_lineFeed_shown (cs : List Char) : (shown emojis cs).count '\n' = cs.count '\n' := by
  have hpieces : ((tagPieces 0 cs).flatMap fun piece =>
      expandCodes emojis 0 true (dropEscapes piece)).count '\n' =
      (tagPieces 0 cs).flatten.count '\n' := by
    rw [List.count_flatMap, List.count_flatten]
    refine congrArg List.sum (List.map_congr_left fun piece _ => ?_)
    exact (count_lineFeed_expandCodes _).trans (count_lineFeed_dropEscapes piece)
  rw [flatten_tagPieces] at hpieces
  rw [← hpieces]
  exact List.count_filter (by decide)

end

/-! ## Printed lines -/

/-- A text is cut at characters that are in none of the pieces. -/
theorem mem_cutAt {isCut : Char → Bool} {cs piece : List Char} {c : Char}
    (h : piece ∈ cutAt isCut cs) (hc : c ∈ piece) : c ∈ cs ∧ isCut c = false := by
  induction cs generalizing piece with
  | nil =>
    rw [List.mem_singleton.1 h] at hc
    cases hc
  | cons d cs ih =>
    rw [cutAt] at h
    split at h
    · rcases List.mem_cons.1 h with rfl | h
      · cases hc
      · exact (ih h hc).imp_left (List.mem_cons_of_mem d)
    · next hd =>
      cases hcut : cutAt isCut cs with
      | nil => exact absurd hcut (cutAt_ne_nil isCut cs)
      | cons first pieces =>
        rw [hcut] at h ih
        rcases List.mem_cons.1 h with rfl | h
        · rcases List.mem_cons.1 hc with rfl | hc
          · exact ⟨List.mem_cons_self, by simpa using hd⟩
          · exact (ih List.mem_cons_self hc).imp_left (List.mem_cons_of_mem d)
        · exact (ih (List.mem_cons_of_mem first h) hc).imp_left (List.mem_cons_of_mem d)

/-- Between pieces only blanks are added. -/
theorem mem_joinAtStops {c : Char} {column : Nat} {pieces : List (List Char)}
    (h : c ∈ joinAtStops column pieces) : c = ' ' ∨ ∃ piece ∈ pieces, c ∈ piece := by
  induction pieces generalizing column with
  | nil => cases h
  | cons piece pieces ih =>
    cases pieces with
    | nil => exact .inr ⟨piece, List.mem_cons_self, h⟩
    | cons next pieces =>
      simp only [joinAtStops, List.mem_append, List.mem_singleton, List.mem_replicate] at h
      rcases h with ((h | h) | h) | h
      · exact .inr ⟨piece, List.mem_cons_self, h⟩
      · exact .inl h
      · exact .inl h.2
      · exact (ih h).imp_right fun hrest =>
          hrest.imp fun other hother => ⟨List.mem_cons_of_mem piece hother.1, hother.2⟩

/-- Only blanks come in place of tabs. -/
theorem mem_expandTabs {c : Char} {line : List Char} (h : c ∈ expandTabs line) :
    c = ' ' ∨ c ∈ line ∧ c ≠ '\t' := by
  rcases mem_joinAtStops h with h | ⟨piece, hpiece, hc⟩
  · exact .inl h
  · exact .inr ((mem_cutAt hpiece hc).imp_right (by simp))

/-- Lines are printed one after another. -/
theorem printed_append_cons (front rest : List Char) :
    printed (front ++ '\n' :: rest) = printed front ++ printed rest := by
  rw [printed, linesOf, cutAt_append_cons rfl, List.map_append, List.flatMap_append]
  rfl

/-- A line is printed with its tabs filled up. -/
theorem printed_line {line : List Char} (h : '\n' ∉ line) :
    printed line = expandTabs line ++ ['\n'] := by
  rw [printed, linesOf, cutAt_eq_singleton]
  · simp
  · exact fun c hc => beq_eq_false_iff_ne.2 fun heq => h (heq ▸ hc)

/-- A text takes one line more than it has line feeds. -/
theorem count_lineFeed_printed (text : List Char) :
    (printed text).count '\n' = text.count '\n' + 1 := by
  have hline {line : List Char} (h : '\n' ∉ line) : (printed line).count '\n' = 1 := by
    have hnone : '\n' ∉ expandTabs line := by
      intro hmem
      rcases mem_expandTabs hmem with hblank | ⟨hmem, -⟩
      · cases hblank
      · exact h hmem
    rw [printed_line h, List.count_append, List.count_eq_zero.2 hnone]
    rfl
  induction text using lines_induction with
  | last line h => rw [hline h, List.count_eq_zero.2 h]
  | cons line rest h ih =>
    rw [printed_append_cons, List.count_append, hline h, ih, List.count_append,
      List.count_eq_zero.2 h, List.count_cons_self]
    omega

/-! ## Names -/

/-- A name ends in one backslash, not in two or more. -/
def EndsInBackslash (name : List Char) : Prop :=
  ∃ front, name = front ++ ['\\'] ∧ front.getLast? ≠ some '\\'

/-- A backslash is added to a name that ends in one, and to no other. -/
theorem escapeEnd_eq (name : List Char) :
    EndsInBackslash name ∧ escapeEnd name = name ++ ['\\'] ∨
      ¬ EndsInBackslash name ∧ escapeEnd name = name := by
  have hname : name = name.reverse.reverse := name.reverse_reverse.symm
  unfold escapeEnd
  split
  · next front heq =>
    refine .inr ⟨?_, rfl⟩
    rintro ⟨front', heq', hlast⟩
    rw [heq, List.reverse_cons] at hname
    have hfront := List.append_cancel_right (heq'.symm.trans hname)
    rw [hfront, List.reverse_cons, List.getLast?_concat] at hlast
    exact hlast rfl
  · next front hpair heq =>
    refine .inl ⟨⟨front.reverse, ?_, ?_⟩, rfl⟩
    · rw [hname, heq, List.reverse_cons]
    · rw [List.getLast?_reverse]
      intro hhead
      obtain ⟨rest, rfl⟩ := List.head?_eq_some_iff.1 hhead
      exact hpair rest rfl
  · next hsingle =>
    refine .inr ⟨?_, rfl⟩
    rintro ⟨front, rfl, -⟩
    exact hsingle front.reverse (List.reverse_concat ..)

/-- No line feed is added to a name. -/
theorem count_lineFeed_escapeEnd (name : List Char) :
    (escapeEnd name).count '\n' = name.count '\n' := by
  rcases escapeEnd_eq name with ⟨-, heq⟩ | ⟨-, heq⟩
  · rw [heq, List.count_append]
    rfl
  · rw [heq]

section
variable {name more rest : List Char} (hmore : ∀ c ∈ more, isPlainChar c = true)
include hmore

end

/-! ## Line numbers -/

/-- A word is plain. -/
theorem isPlain_of_isWord {word : List Char} (h : IsWord word) : isPlain word = true := by
  refine isPlain_of_forall_mem (fun c hc => ?_) (h.notMem (by decide))
  have hne {d : Char} (hd : isWordChar d = false) : c ≠ d := fun heq => h.notMem hd (heq ▸ hc)
  have hcontrol : isCursorControl c = false := by
    simp only [isCursorControl, List.contains_cons, List.contains_nil, Bool.or_eq_false_iff,
      beq_eq_false_iff_ne]
    exact ⟨hne (by decide), hne (by decide), hne (by decide), hne (by decide),
      hne (by decide), trivial⟩
  rw [isPlainChar, hcontrol, isInner_iff.2 ⟨hne (by decide), hne (by decide)⟩,
    bne_iff_ne.2 (hne (by decide)), bne_iff_ne.2 (hne (by decide))]
  rfl

/-- The digits of a number are a word. -/
theorem isWord_natText (n : Nat) : IsWord (natText n) := by
  refine ⟨Nat.toDigits_ne_nil, fun c hc => isWordChar_of_isAlphanum ?_⟩
  exact Bool.or_eq_true_iff.2 (.inr (isDigit_of_mem_natText hc))

end Console

end ScriptLint
