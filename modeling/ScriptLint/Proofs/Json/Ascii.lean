import ScriptLint.Proofs.Json.Values

/-!
# JSON texts are in ASCII

Digits, signs and words are in ASCII as they are. In a string, a character beyond ASCII is written
by its code units in hexadecimal digits (`isAscii_escapeChar`). So every value is written in ASCII,
at any level (`isAscii_write`).
-/

namespace ScriptLint

namespace Json

/-- Whether a text is in ASCII. -/
def IsAscii (cs : List Char) : Prop := ∀ c ∈ cs, c.toNat < 128

/-- The empty text is in ASCII. -/
theorem isAscii_nil : IsAscii [] := List.forall_mem_nil _

/-- Two texts in ASCII make up one. -/
theorem IsAscii.append {cs ds : List Char} (hcs : IsAscii cs) (hds : IsAscii ds) :
    IsAscii (cs ++ ds) := List.forall_mem_append.2 ⟨hcs, hds⟩

/-- A character of ASCII may stand before a text in ASCII. -/
theorem IsAscii.cons {c : Char} {cs : List Char} (hc : c.toNat < 128) (hcs : IsAscii cs) :
    IsAscii (c :: cs) := List.forall_mem_cons.2 ⟨hc, hcs⟩

/-- Whether a given text is in ASCII can be computed. -/
theorem isAscii_of_all {cs : List Char} (h : (cs.all fun c => c.toNat < 128) = true) :
    IsAscii cs := by
  intro c hc
  simpa using List.all_eq_true.1 h c hc

/-! ## Numbers -/

/-- The characters of numbers are in ASCII. -/
theorem isAscii_of_isNumberText {cs : List Char} (h : IsNumberText cs) : IsAscii cs := by
  intro c hc
  have hnumber := h c hc
  rw [isNumberChar, Bool.or_eq_true, List.contains_iff_mem] at hnumber
  rcases hnumber with hdigit | hother
  · have hrange := Char.isDigit_iff_toNat.1 hdigit
    have hnine : '9'.toNat = 57 := rfl
    omega
  · exact isAscii_of_all (by decide) c hother

/-- Doubles are written in ASCII. -/
theorem isAscii_realText (x : Double) : IsAscii (realText x) := by
  cases x with
  | nan => exact isAscii_of_all rfl
  | infinite negative =>
    cases negative with
    | true => exact isAscii_of_all rfl
    | false => exact isAscii_of_all rfl
  | finite negative mantissa exponent =>
    exact isAscii_of_isNumberText (isNumberText_doubleText (.finite negative mantissa exponent))

/-! ## Strings -/

/-- The escape of a code unit is in ASCII. -/
theorem isAscii_unitEscape {n : Nat} (hn : n < 0x10000) : IsAscii (unitEscape n) := by
  have hdigit : ∀ k < 16, (Nat.digitChar k).toNat < 128 := by decide
  rw [unitEscape, hexText_four hn]
  simp only [IsAscii, List.forall_mem_cons]
  refine ⟨by decide, by decide, hdigit _ ?_, hdigit _ ?_, hdigit _ ?_, hdigit _ ?_, isAscii_nil⟩
  all_goals omega

/-- Every character of a string is written in ASCII. -/
theorem isAscii_escapeChar (c : Char) : IsAscii (escapeChar c) := by
  have hrange := toNat_range c
  unfold escapeChar
  split_ifs with hself hfeed hreturn htab hform hback hplain
  · simp only [Bool.or_eq_true, decide_eq_true_eq] at hself
    rcases hself with rfl | rfl
    · exact isAscii_of_all (by decide)
    · exact isAscii_of_all (by decide)
  · exact isAscii_of_all (by decide)
  · exact isAscii_of_all (by decide)
  · exact isAscii_of_all (by decide)
  · exact isAscii_of_all (by decide)
  · exact isAscii_of_all (by decide)
  · simp only [Bool.and_eq_true, decide_eq_true_eq] at hplain
    exact .cons (by omega) isAscii_nil
  · unfold unitEscapes
    dsimp only
    split
    · next hlt => exact isAscii_unitEscape hlt
    · exact (isAscii_unitEscape (by omega)).append (isAscii_unitEscape (by omega))

/-- Every string is written in ASCII. -/
theorem isAscii_stringText (s : String) : IsAscii (stringText s) := by
  refine .cons (by decide) (.append ?_ (.cons (by decide) isAscii_nil))
  intro c hc
  obtain ⟨d, -, hd⟩ := List.mem_flatMap.1 hc
  exact isAscii_escapeChar d c hd

/-! ## Lists and mappings -/

/-- Line breaks and indentation are in ASCII. -/
theorem isAscii_newLine (level : Nat) : IsAscii (newLine level) := by
  refine .cons (by decide) ?_
  intro c hc
  rw [List.eq_of_mem_replicate hc]
  decide

/-- Parts in ASCII are laid out in ASCII. -/
theorem isAscii_block {left right : Char} (hleft : left.toNat < 128) (hright : right.toNat < 128)
    (level : Nat) {parts : List (List Char)} (hparts : ∀ part ∈ parts, IsAscii part) :
    IsAscii (block left right level parts) := by
  have hbody : IsAscii (blockBody (level + 1) parts) := by
    induction parts with
    | nil => exact isAscii_nil
    | cons part parts ih =>
      obtain ⟨hpart, hparts⟩ := List.forall_mem_cons.1 hparts
      cases parts with
      | nil => rwa [blockBody_singleton]
      | cons next parts =>
        rw [blockBody_cons_cons]
        exact hpart.append (.cons (by decide) ((isAscii_newLine _).append (ih hparts)))
  cases parts with
  | nil => exact .cons hleft (.cons hright isAscii_nil)
  | cons part parts =>
    rw [← List.append_nil (block left right level (part :: parts)), block_append]
    exact .cons hleft ((isAscii_newLine _).append (hbody.append ((isAscii_newLine _).append
      (.cons hright isAscii_nil))))

mutual

/-- Every value is written in ASCII. -/
theorem isAscii_write : ∀ (level : Nat) (v : Value), IsAscii (write level v)
  | _, .null => isAscii_of_all rfl
  | _, .bool true => isAscii_of_all rfl
  | _, .bool false => isAscii_of_all rfl
  | _, .int n => isAscii_of_isNumberText (isNumberText_intText n)
  | _, .real x => isAscii_realText x
  | _, .text s => isAscii_stringText s
  | level, .list items => by
    rw [write]
    exact isAscii_block (by decide) (by decide) level (isAscii_writeItems (level + 1) items)
  | level, .mapping entries => by
    rw [write]
    exact isAscii_block (by decide) (by decide) level (isAscii_writeEntries (level + 1) entries)

/-- So are the items of a list. -/
theorem isAscii_writeItems : ∀ (level : Nat) (items : List Value),
    ∀ part ∈ writeItems level items, IsAscii part
  | _, [] => List.forall_mem_nil _
  | level, v :: vs => by
    rw [writeItems]
    exact List.forall_mem_cons.2 ⟨isAscii_write level v, isAscii_writeItems level vs⟩

/-- So are the entries of a mapping. -/
theorem isAscii_writeEntries : ∀ (level : Nat) (entries : List (String × Value)),
    ∀ part ∈ writeEntries level entries, IsAscii part
  | _, [] => List.forall_mem_nil _
  | level, (key, v) :: rest => by
    rw [writeEntries]
    refine List.forall_mem_cons.2 ⟨?_, isAscii_writeEntries level rest⟩
    exact (isAscii_stringText key).append
      (.cons (by decide) (.cons (by decide) (isAscii_write level v)))

end

end Json

end ScriptLint
