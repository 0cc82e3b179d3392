import Mathlib.Data.List.Basic
import ScriptLint.Options.Setting
import ScriptLint.Text.Utf8

/-!
# The wording of failures

Numbers are written with digits, signs, a point and a few letters (`IsNumberText`). A text in quotes
has its control characters escaped. So no value is shown with a line feed in it
(`Value.lineFeed_notMem_display`), and the message of a failure takes one line
(`SettingError.lineFeed_notMem_message`, `Utf8.Fault.lineFeed_notMem_message`).
-/

namespace ScriptLint

/-! ## Numbers -/

/-- Whether a character occurs in the text of a number. -/
def isNumberChar (c : Char) : Bool := c.isDigit || "+-.aefinINty".toList.contains c

/-- A text with the characters of numbers only. -/
def IsNumberText (cs : List Char) : Prop := ∀ c ∈ cs, isNumberChar c = true

/-- The empty text has the characters of numbers only. -/
theorem isNumberText_nil : IsNumberText [] := List.forall_mem_nil _

/-- Two texts with the characters of numbers make up one. -/
theorem IsNumberText.append {cs ds : List Char} (hcs : IsNumberText cs) (hds : IsNumberText ds) :
    IsNumberText (cs ++ ds) := List.forall_mem_append.2 ⟨hcs, hds⟩

/-- A character of numbers may stand before a text with such characters. -/
theorem IsNumberText.cons {c : Char} {cs : List Char} (hc : isNumberChar c = true)
    (hcs : IsNumberText cs) : IsNumberText (c :: cs) := List.forall_mem_cons.2 ⟨hc, hcs⟩

/-- No character of a number is a line feed. -/
theorem IsNumberText.lineFeed_notMem {cs : List Char} (h : IsNumberText cs) : '\n' ∉ cs :=
  fun hmem => by cases h _ hmem

/-- Natural numbers are written with digits. -/
theorem isDigit_of_mem_natText {c : Char} {n : Nat} (h : c ∈ natText n) : c.isDigit = true :=
  Nat.isDigit_of_mem_toDigits (by decide) (by decide) h

/-- Natural numbers are written with the characters of numbers. -/
theorem isNumberText_natText (n : Nat) : IsNumberText (natText n) := by
  intro c hc
  rw [isNumberChar, isDigit_of_mem_natText hc, Bool.true_or]

/-- Integers are written with the characters of numbers. -/
theorem isNumberText_intText (n : Int) : IsNumberText (intText n) := by
  cases n with
  | ofNat n => exact isNumberText_natText n
  | negSucc n => exact .cons (by decide) (isNumberText_natText (n + 1))

/-- Zeros are characters of numbers. -/
theorem isNumberText_zeros (n : Nat) : IsNumberText (List.replicate n '0') := by
  intro c hc
  rw [List.eq_of_mem_replicate hc]
  decide

/-- Digits are laid out with a point and zeros. -/
theorem isNumberText_positionalText {digits : List Char} (h : IsNumberText digits) (point : Int) :
    IsNumberText (Decimal.positionalText digits point) := by
  unfold Decimal.positionalText
  split_ifs
  · exact .cons (by decide) (.cons (by decide) ((isNumberText_zeros _).append h))
  · refine (h.append (isNumberText_zeros _)).append ?_
    exact .cons (by decide) (.cons (by decide) isNumberText_nil)
  · have hfront : IsNumberText (digits.take point.toNat) :=
      fun c hc => h c (List.mem_of_mem_take hc)
    have hback : IsNumberText (digits.drop point.toNat) :=
      fun c hc => h c (List.mem_of_mem_drop hc)
    exact hfront.append (.cons (by decide) hback)

/-- Digits are laid out with a point and an exponent. -/
theorem isNumberText_scientificText {digits : List Char} (h : IsNumberText digits) (point : Int) :
    IsNumberText (Decimal.scientificText digits point) := by
  have hexponent : IsNumberText (Decimal.exponentText (point - 1)) := by
    unfold Decimal.exponentText
    refine .append (.cons ?_ (isNumberText_zeros _)) (isNumberText_natText _)
    split
    · decide
    · decide
  refine .append ?_ (.cons (by decide) hexponent)
  split
  · exact isNumberText_nil
  · exact h
  · obtain ⟨hfirst, hrest⟩ := List.forall_mem_cons.1 h
    exact .cons hfirst (.cons (by decide) hrest)

/-- Doubles are written with the characters of numbers. -/
theorem isNumberText_doubleText (x : Double) : IsNumberText x.text := by
  have hdecimal (d : Decimal) : IsNumberText d.text := by
    unfold Decimal.text
    dsimp only
    split
    · exact isNumberText_positionalText (isNumberText_natText _) _
    · exact isNumberText_scientificText (isNumberText_natText _) _
  cases x with
  | nan => exact List.all_eq_true.1 (by decide)
  | infinite negative => cases negative <;> exact List.all_eq_true.1 (by decide)
  | finite negative mantissa exponent =>
    refine .append ?_ ?_
    · cases negative with
      | true => exact .cons (by decide) isNumberText_nil
      | false => exact isNumberText_nil
    · split
      · exact List.all_eq_true.1 (by decide)
      · exact hdecimal _

/-- No hexadecimal digit is a line feed. -/
theorem lineFeed_notMem_hexText (width n : Nat) : '\n' ∉ hexText width n := by
  have hchar : ∀ k < 16, Nat.digitChar k ≠ '\n' := by decide
  have hdigits : '\n' ∉ Nat.toDigits 16 n := by
    induction n using Nat.strongRecOn with
    | ind n ih =>
      rcases Nat.lt_or_ge n 16 with hlt | hge
      · rw [Nat.toDigits_of_lt_base hlt, List.mem_singleton]
        exact (hchar n hlt).symm
      · rw [Nat.toDigits_of_base_le (by decide) hge, List.mem_append, List.mem_singleton, not_or]
        exact ⟨ih (n / 16) (by omega), (hchar (n % 16) (by omega)).symm⟩
  rw [hexText, List.mem_append, not_or]
  refine ⟨fun hmem => ?_, hdigits⟩
  cases List.eq_of_mem_replicate hmem

/-! ## Quoted texts -/

/-- The quote around a text is one of two. -/
theorem activeQuote_ne_lineFeed (cs : List Char) : activeQuote cs ≠ '\n' := by
  unfold activeQuote
  split <;> decide

/-- A line feed between quotes is escaped, and no other character is shown by one. -/
theorem lineFeed_notMem_escapeChar {quote : Char} (hquote : quote ≠ '\n') (c : Char) :
    '\n' ∉ escapeChar quote c := by
  unfold escapeChar
  split_ifs with hself hfeed hreturn htab hprintable
  · simp only [Bool.or_eq_true, decide_eq_true_eq] at hself
    rcases hself with rfl | rfl
    · simpa using hquote.symm
    · decide
  · decide
  · decide
  · decide
  · simpa using Ne.symm hfeed
  · unfold codeEscape
    dsimp only
    split_ifs <;> simp [lineFeed_notMem_hexText]

/-- A text in quotes takes one line. -/
theorem lineFeed_notMem_quoted (cs : List Char) : '\n' ∉ quoted cs := by
  have hquote := activeQuote_ne_lineFeed cs
  have hbody : '\n' ∉ cs.flatMap (escapeChar (activeQuote cs)) := by
    rw [List.mem_flatMap]
    rintro ⟨c, -, hmem⟩
    exact lineFeed_notMem_escapeChar hquote c hmem
  simp only [quoted, List.cons_append, List.mem_cons, List.mem_append, List.not_mem_nil, or_false,
    not_or]
  exact ⟨hquote.symm, hbody, hquote.symm⟩

/-! ## Values -/

/-- Texts of one line each are joined on one line. -/
theorem lineFeed_notMem_commaJoin {items : List (List Char)} (h : ∀ item ∈ items, '\n' ∉ item) :
    '\n' ∉ commaJoin items := by
  induction items with
  | nil => exact List.not_mem_nil
  | cons item items ih =>
    rw [List.forall_mem_cons] at h
    cases items with
    | nil => simpa [commaJoin] using h.1
    | cons next items =>
      have hrest := ih h.2
      simp only [commaJoin, List.intersperse_cons_cons, List.flatten_cons, List.mem_append,
        not_or] at hrest ⊢
      exact ⟨h.1, by decide, hrest⟩

/-- A text of one line stays one between two other characters. -/
theorem lineFeed_notMem_enclose {left right : Char} {cs : List Char} (hleft : left ≠ '\n')
    (hright : right ≠ '\n') (h : '\n' ∉ cs) : '\n' ∉ enclose left right cs := by
  simpa [enclose, h] using ⟨hleft.symm, hright.symm⟩

namespace Value

mutual

/-- A value is shown on one line. -/
theorem lineFeed_notMem_display : ∀ v : Value, '\n' ∉ v.display
  | .null => by decide
  | .bool true => by decide
  | .bool false => by decide
  | .int n => (isNumberText_intText n).lineFeed_notMem
  | .real x => (isNumberText_doubleText x).lineFeed_notMem
  | .text s => lineFeed_notMem_quoted s.toList
  | .list items => by
    rw [display]
    exact lineFeed_notMem_enclose (by decide) (by decide)
      (lineFeed_notMem_commaJoin (lineFeed_notMem_displayItems items))
  | .mapping entries => by
    rw [display]
    exact lineFeed_notMem_enclose (by decide) (by decide)
      (lineFeed_notMem_commaJoin (lineFeed_notMem_displayEntries entries))

/-- So are the items of a list. -/
theorem lineFeed_notMem_displayItems : ∀ items : List Value,
    ∀ item ∈ displayItems items, '\n' ∉ item
  | [] => List.forall_mem_nil _
  | v :: vs => by
    rw [displayItems]
    exact List.forall_mem_cons.2 ⟨lineFeed_notMem_display v, lineFeed_notMem_displayItems vs⟩

/-- So are the entries of a mapping. -/
theorem lineFeed_notMem_displayEntries : ∀ entries : List (String × Value),
    ∀ item ∈ displayEntries entries, '\n' ∉ item
  | [] => List.forall_mem_nil _
  | (key, v) :: rest => by
    rw [displayEntries]
    refine List.forall_mem_cons.2 ⟨?_, lineFeed_notMem_displayEntries rest⟩
    simp [lineFeed_notMem_quoted, lineFeed_notMem_display v]

end

end Value

/-! ## Messages -/

/-- The message about a setting takes one line. -/
theorem SettingError.lineFeed_notMem_message (e : SettingError) : '\n' ∉ e.message.toList := by
  have hfront : '\n' ∉ "option ".toList := by decide
  have hmiddle : '\n' ∉ " expects a boolean, got ".toList := by decide
  simp only [message, showQuoted, Value.shown, String.toList_append, String.toList_ofList,
    List.mem_append, not_or]
  exact ⟨⟨⟨hfront, lineFeed_notMem_quoted _⟩, hmiddle⟩, e.value.lineFeed_notMem_display⟩

/-- The message about bytes that are no text takes one line. -/
theorem Utf8.Fault.lineFeed_notMem_message (f : Fault) : '\n' ∉ f.message.toList := by
  have hnumber (n : Nat) : '\n' ∉ (showNat n).toList := by
    rw [showNat, String.toList_ofList]
    exact (isNumberText_natText n).lineFeed_notMem
  have hreason : '\n' ∉ f.reason.message.toList := by
    cases f.reason <;> decide
  unfold message
  dsimp only
  split <;> simp [hnumber, hreason, lineFeed_notMem_hexText]

end ScriptLint
