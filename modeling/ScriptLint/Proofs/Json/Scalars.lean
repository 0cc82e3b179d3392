import Mathlib.Data.List.Basic
import ScriptLint.Proofs.Scan
import ScriptLint.Proofs.Wording
import ScriptLint.Value.JsonReader
import ScriptLint.Value.JsonWriter

/-!
# JSON strings and integers are read back

A string is written character by character, in ASCII, and read step by step: one step takes what one
character was written as (`stringStep?_escapeChar`), be it the character itself, a letter behind a
backslash, a code unit of four hexadecimal digits or two such units. Characters are never
surrogates, so a unit that stands alone is never taken for a half of a pair.

An integer is read up to its last digit if what follows does not continue a number (`EndsNumber`),
and the reader takes integers of `maxIntDigits` digits at most (`readScalar?_intText`).
-/

namespace ScriptLint

/-- A text of which no part vanishes does not get shorter. -/
theorem length_le_length_flatMap {α β : Type} {f : α → List β} (h : ∀ a, f a ≠ []) (as : List α) :
    as.length ≤ (as.flatMap f).length := by
  induction as with
  | nil => exact Nat.le_refl 0
  | cons a as ih =>
    have hpos := List.length_pos_iff.2 (h a)
    rw [List.flatMap_cons, List.length_append, List.length_cons]
    omega

namespace Json

/-! ## Strings -/

/-- A hexadecimal text with one more digit. -/
theorem hexText_succ {width : Nat} (hwidth : 0 < width) (n : Nat) :
    hexText (width + 1) n = hexText width (n / 16) ++ [Nat.digitChar (n % 16)] := by
  unfold hexText
  rcases Nat.lt_or_ge n 16 with hlt | hge
  · obtain ⟨width, rfl⟩ := Nat.exists_eq_add_one_of_ne_zero (Nat.ne_of_gt hwidth)
    rw [Nat.toDigits_of_lt_base hlt, Nat.div_eq_of_lt hlt, Nat.mod_eq_of_lt hlt, Nat.toDigits_zero]
    show List.replicate (width + 1) '0' ++ _ = List.replicate width '0' ++ ['0'] ++ _
    rw [List.replicate_succ']
  · rw [Nat.toDigits_of_base_le (by decide) hge]
    simp

/-- Hexadecimal digits are read back. -/
theorem hexDigit?_digitChar : ∀ k < 16, hexDigit? (Nat.digitChar k) = some k := by decide

/-- The four digits of a code unit. -/
theorem hexText_four {n : Nat} (hn : n < 0x10000) :
    hexText 4 n = [Nat.digitChar (n / 16 / 16 / 16), Nat.digitChar (n / 16 / 16 % 16),
      Nat.digitChar (n / 16 % 16), Nat.digitChar (n % 16)] := by
  have hfirst : hexText 1 (n / 16 / 16 / 16) = [Nat.digitChar (n / 16 / 16 / 16)] := by
    rw [hexText, Nat.toDigits_of_lt_base (by omega)]
    rfl
  rw [hexText_succ (by decide), hexText_succ (by decide), hexText_succ (by decide), hfirst]
  rfl

/-- A code unit is read back. -/
theorem readUnit?_hexText {n : Nat} (hn : n < 0x10000) (rest : List Char) :
    readUnit? (hexText 4 n ++ rest) = some (n, rest) := by
  have hvalue :
      (((n / 16 / 16 / 16) * 16 + n / 16 / 16 % 16) * 16 + n / 16 % 16) * 16 + n % 16 = n := by
    omega
  rw [hexText_four hn]
  simp only [List.cons_append, List.nil_append, readUnit?]
  rw [hexDigit?_digitChar _ (by omega), hexDigit?_digitChar _ (by omega),
    hexDigit?_digitChar _ (by omega), hexDigit?_digitChar _ (by omega)]
  exact congrArg (fun value => some (value, rest)) hvalue

/-- The escape of a code unit is read with what may follow as its second half. -/
theorem stringStep?_unitEscape {n : Nat} (hn : n < 0x10000) (rest : List Char) :
    stringStep? (unitEscape n ++ rest) =
      some (.char (pairedChar n rest).1 (pairedChar n rest).2) := by
  simp only [unitEscape, List.cons_append, stringStep?, readUnit?_hexText hn]

/-- Characters are no surrogates. -/
theorem toNat_range (c : Char) :
    c.toNat < 0xd800 ∨ 0xdfff < c.toNat ∧ c.toNat < 0x110000 := c.valid

/-- A character that is one code unit. -/
theorem pairedChar_of_lt {c : Char} (hc : c.toNat < 0x10000) (rest : List Char) :
    pairedChar c.toNat rest = (c, rest) := by
  have hrange := toNat_range c
  have hhigh : isHigh c.toNat = false := by
    rw [isHigh, Bool.and_eq_false_iff, decide_eq_false_iff_not, decide_eq_false_iff_not]
    omega
  have hlow : isLow c.toNat = false := by
    rw [isLow, Bool.and_eq_false_iff, decide_eq_false_iff_not, decide_eq_false_iff_not]
    omega
  rw [pairedChar, hhigh, unitChar, hhigh, hlow]
  show (Char.ofNat c.toNat, rest) = (c, rest)
  rw [Char.ofNat_toNat]

/-- The escape of a code unit is read back as the unit. -/
theorem unitEscape?_unitEscape {n : Nat} (hn : n < 0x10000) (rest : List Char) :
    unitEscape? (unitEscape n ++ rest) = some (n, rest) := readUnit?_hexText hn rest

/-- The two halves of a pair are joined. -/
theorem pairedChar_unitEscape {high low : Nat} (hhigh : isHigh high = true)
    (hlow : isLow low = true) (rest : List Char) :
    pairedChar high (unitEscape low ++ rest) =
      (Char.ofNat (0x10000 + (high - 0xd800) * 0x400 + (low - 0xdc00)), rest) := by
  have hlt : low < 0x10000 := by
    simp only [isLow, Bool.and_eq_true, decide_eq_true_eq] at hlow
    omega
  rw [pairedChar, hhigh, unitEscape?_unitEscape hlt]
  exact if_pos hlow

/-- A character of two code units. -/
theorem pairedChar_of_ge {c : Char} (hc : 0x10000 ≤ c.toNat) (rest : List Char) :
    pairedChar (0xd800 + (c.toNat - 0x10000) / 0x400)
      (unitEscape (0xdc00 + (c.toNat - 0x10000) % 0x400) ++ rest) = (c, rest) := by
  have hrange := toNat_range c
  rw [pairedChar_unitEscape]
  · have hjoin : 0x10000 + (0xd800 + (c.toNat - 0x10000) / 0x400 - 0xd800) * 0x400 +
        (0xdc00 + (c.toNat - 0x10000) % 0x400 - 0xdc00) = c.toNat := by omega
    rw [hjoin, Char.ofNat_toNat]
  · simp only [isHigh, Bool.and_eq_true, decide_eq_true_eq]
    omega
  · simp only [isLow, Bool.and_eq_true, decide_eq_true_eq]
    omega

/-- A character that stands for itself in a string. -/
theorem stringStep?_cons {c : Char} (hquote : c ≠ '"') (hslash : c ≠ '\\') (hc : 32 ≤ c.toNat)
    (rest : List Char) : stringStep? (c :: rest) = some (.char c rest) := by
  unfold stringStep?
  split
  · next h => cases h
  · next h => cases h; exact absurd rfl hquote
  · next h => cases h; exact absurd rfl hslash
  · next h => cases h; exact absurd rfl hslash
  · next h =>
    cases h
    rw [if_neg (by simp [hslash]; omega)]

/-- A character of a string is read back. -/
theorem stringStep?_escapeChar (c : Char) (rest : List Char) :
    stringStep? (escapeChar c ++ rest) = some (.char c rest) := by
  by_cases hquote : c = '"'
  · subst hquote
    rfl
  by_cases hslash : c = '\\'
  · subst hslash
    rfl
  unfold escapeChar
  rw [if_neg (by simp [hquote, hslash])]
  split_ifs with hfeed hreturn htab hform hback hplain
  · subst hfeed
    rfl
  · subst hreturn
    rfl
  · subst htab
    rfl
  · subst hform
    rfl
  · subst hback
    rfl
  · simp only [Bool.and_eq_true, decide_eq_true_eq] at hplain
    exact stringStep?_cons hquote hslash hplain.1 rest
  · unfold unitEscapes
    dsimp only
    split
    · next hlt => rw [stringStep?_unitEscape hlt, pairedChar_of_lt hlt]
    · next hge =>
      have hrange := toNat_range c
      rw [List.append_assoc, stringStep?_unitEscape (by omega),
        pairedChar_of_ge (Nat.le_of_not_lt hge)]

/-- No character of a string vanishes. -/
theorem escapeChar_ne_nil (c : Char) : escapeChar c ≠ [] := by
  unfold escapeChar unitEscapes unitEscape
  dsimp only
  split_ifs <;> exact List.cons_ne_nil _ _

/-- The contents of a string are read back. -/
theorem readString?_flatMap_escapeChar {s : List Char} {steps : Nat} (h : s.length < steps)
    (rest : List Char) :
    readString? steps (s.flatMap escapeChar ++ '"' :: rest) = some (s, rest) := by
  induction s generalizing steps with
  | nil =>
    obtain ⟨steps, rfl⟩ := Nat.exists_eq_add_one_of_ne_zero (Nat.ne_of_gt h)
    rfl
  | cons c s ih =>
    obtain ⟨steps, rfl⟩ := Nat.exists_eq_add_one_of_ne_zero (Nat.ne_zero_of_lt h)
    rw [List.flatMap_cons, List.append_assoc, readString?, stringStep?_escapeChar]
    dsimp only
    rw [ih (Nat.lt_of_succ_lt_succ h)]
    rfl

/-- A string is read back from behind its opening quote. -/
theorem readString?_stringText (s : String) (rest : List Char) :
    ∃ body, stringText s ++ rest = '"' :: body ∧
      readString? (body.length + 1) body = some (s.toList, rest) := by
  refine ⟨s.toList.flatMap escapeChar ++ '"' :: rest, ?_, readString?_flatMap_escapeChar ?_ rest⟩
  · simp [stringText]
  · have hle := length_le_length_flatMap escapeChar_ne_nil s.toList
    rw [List.length_append]
    omega

/-! ## Numbers -/

/-- Whether a number can go on with a character. -/
def continuesNumber (c : Char) : Bool := c.isDigit || c == '.' || c == 'e' || c == 'E'

/-- A text in which no number goes on. -/
def EndsNumber (rest : List Char) : Prop := rest.head?.any continuesNumber = false

/-- A digit is none of the other characters. -/
theorem ne_of_isDigit {c d : Char} (hc : c.isDigit = true) (hd : d.isDigit = false) : c ≠ d := by
  rintro rfl
  rw [hd] at hc
  cases hc

/-- A positive number does not start with a zero. -/
theorem head?_natText_ne {n : Nat} (hn : 0 < n) : (natText n).head? ≠ some '0' := by
  induction n using Nat.strongRecOn with
  | _ n ih =>
    unfold natText
    rcases Nat.lt_or_ge n 10 with hlt | hge
    · have hdigit : ∀ k < 10, 0 < k → Nat.digitChar k ≠ '0' := by decide
      rw [Nat.toDigits_of_lt_base hlt, List.head?_cons, ne_eq, Option.some.injEq]
      exact hdigit n hlt hn
    · rw [Nat.toDigits_of_base_le (by decide) hge,
        List.head?_append_of_ne_nil _ Nat.toDigits_ne_nil]
      exact ih (n / 10) (by omega) (by omega)

/-- Where a number ends no digit follows. -/
theorem EndsNumber.isDigit {rest : List Char} (h : EndsNumber rest) :
    rest.head?.any Char.isDigit = false := by
  cases rest with
  | nil => rfl
  | cons c rest =>
    simp only [EndsNumber, List.head?_cons, Option.any_some, continuesNumber,
      Bool.or_eq_false_iff] at h
    exact h.1.1.1

/-- The digits of a number are read back. -/
theorem scanWhole_natText (n : Nat) {rest : List Char} (hrest : EndsNumber rest) :
    Numeral.scanWhole (natText n ++ rest) = some (natText n, rest) := by
  rcases Nat.eq_zero_or_pos n with rfl | hpos
  · rfl
  · have hne : natText n ≠ [] := Nat.toDigits_ne_nil
    have hall : ∀ c ∈ natText n, c.isDigit = true := fun c hc => isDigit_of_mem_natText hc
    unfold Numeral.scanWhole
    split
    · next cs h =>
      have hhead := congrArg List.head? h
      rw [List.head?_append_of_ne_nil _ hne] at hhead
      exact absurd hhead (head?_natText_ne hpos)
    · have htake := takeWhile_run hall hrest.isDigit
      have hsplit := List.takeWhile_append_dropWhile (p := Char.isDigit) (l := natText n ++ rest)
      rw [htake] at hsplit ⊢
      rw [List.append_cancel_left hsplit]
      simp [hne]

/-- Where a number ends no fraction follows. -/
theorem scanFraction_eq {rest : List Char} (h : EndsNumber rest) :
    Numeral.scanFraction rest = (none, rest) := by
  unfold Numeral.scanFraction
  split
  · cases h
  · rfl

/-- Where a number ends no exponent follows. -/
theorem scanExponent_eq {rest : List Char} (h : EndsNumber rest) :
    Numeral.scanExponent rest = (none, rest) := by
  cases rest with
  | nil => rfl
  | cons c rest =>
    simp only [EndsNumber, List.head?_cons, Option.any_some, continuesNumber,
      Bool.or_eq_false_iff] at h
    simp only [Numeral.scanExponent, h.1.2, h.2, Bool.or_self, Bool.false_and, Bool.false_eq_true,
      if_false]

/-- The digits of a number have its value. -/
theorem digitsValue_natText (n : Nat) : digitsValue (natText n) = n := by
  rw [digitsValue, natText, ← Nat.ofDigitChars_eq_foldl, Nat.ofDigitChars_ten_toDigits]

/-- A number starts with a digit. -/
theorem exists_cons_natText (n : Nat) : ∃ c cs, natText n = c :: cs ∧ c.isDigit = true := by
  obtain ⟨c, cs, heq⟩ := List.exists_cons_of_ne_nil (Nat.toDigits_ne_nil (n := n) (b := 10))
  exact ⟨c, cs, heq, isDigit_of_mem_natText (heq ▸ List.mem_cons_self)⟩

/-- A number at the front of a text is read back. -/
theorem scan?_natText (n : Nat) {rest : List Char} (hrest : EndsNumber rest) :
    Numeral.scan? (natText n ++ rest) = some (⟨false, natText n, none, none⟩, rest) := by
  have hminus : Numeral.scanMinus (natText n ++ rest) = (false, natText n ++ rest) := by
    obtain ⟨c, cs, heq, hc⟩ := exists_cons_natText n
    rw [heq]
    unfold Numeral.scanMinus
    split
    · next h =>
      cases h
      cases hc
    · rfl
  unfold Numeral.scan?
  simp only [hminus, scanWhole_natText n hrest, scanFraction_eq hrest, scanExponent_eq hrest]

/-- A negative number is scanned up to its last digit. -/
theorem scan?_minus_natText (n : Nat) {rest : List Char} (hrest : EndsNumber rest) :
    Numeral.scan? ('-' :: natText n ++ rest) = some (⟨true, natText n, none, none⟩, rest) := by
  unfold Numeral.scan?
  simp only [List.cons_append, Numeral.scanMinus, scanWhole_natText n hrest, scanFraction_eq hrest,
    scanExponent_eq hrest]

/-- No word starts as a number does. -/
theorem find?_words_eq_none {c : Char} (hc : c.isDigit = true) (cs : List Char) :
    words.find? (fun w => w.1.toList.isPrefixOf (c :: cs)) = none ∧
      words.find? (fun w => w.1.toList.isPrefixOf ('-' :: c :: cs)) = none := by
  have hne (d : Char) (hd : d.isDigit = false) : (d == c) = false :=
    beq_eq_false_iff_ne.2 (ne_of_isDigit hc hd).symm
  constructor
  · simp [words, List.isPrefixOf, hne 'n' rfl, hne 't' rfl, hne 'f' rfl, hne 'N' rfl, hne 'I' rfl,
      hne '-' rfl]
  · simp [words, List.isPrefixOf, hne 'I' rfl]

/-- A text that starts with no word is read as the number that is scanned. -/
theorem readScalar?_of_scan? {cs rest : List Char} {n : Numeral} {v : Value}
    (hwords : words.find? (fun w => w.1.toList.isPrefixOf cs) = none)
    (hscan : Numeral.scan? cs = some (n, rest)) (hvalue : numeralValue? n = some v) :
    readScalar? cs = some (v, rest) := by
  unfold readScalar?
  rw [hwords]
  dsimp only
  rw [hscan]
  dsimp only
  rw [hvalue]
  rfl

/-- A number without fraction and exponent is an integer. -/
theorem numeralValue?_whole (negative : Bool) {digits : List Char}
    (h : digits.length ≤ maxIntDigits) :
    numeralValue? ⟨negative, digits, none, none⟩ =
      some (.int (if negative then -(digitsValue digits : Int) else digitsValue digits)) :=
  if_pos h

/-- An integer is read back. -/
theorem readScalar?_intText {n : Int} (hn : (natText n.natAbs).length ≤ maxIntDigits)
    {rest : List Char} (hrest : EndsNumber rest) :
    readScalar? (intText n ++ rest) = some (.int n, rest) := by
  obtain ⟨c, cs, heq, hc⟩ := exists_cons_natText n.natAbs
  obtain ⟨hwords, hwords'⟩ := find?_words_eq_none hc (cs ++ rest)
  rw [← List.cons_append, ← heq] at hwords hwords'
  cases n with
  | ofNat n =>
    refine readScalar?_of_scan? hwords (scan?_natText n hrest) ?_
    have hvalue := numeralValue?_whole false hn
    rw [digitsValue_natText] at hvalue
    exact hvalue
  | negSucc n =>
    refine readScalar?_of_scan? hwords' (scan?_minus_natText (n + 1) hrest) ?_
    have hvalue := numeralValue?_whole true hn
    rw [digitsValue_natText] at hvalue
    exact hvalue

end Json

end ScriptLint
