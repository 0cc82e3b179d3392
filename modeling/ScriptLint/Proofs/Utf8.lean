import Mathlib.Data.List.Basic
import ScriptLint.Text.Utf8

/-!
# Decoding UTF-8

`Utf8.decode` is the inverse of the encoding of characters in the standard library: it gives
characters exactly for the bytes that encode them (`decode_eq_ok_iff`), so that there is a fault
exactly in the bytes that encode nothing (`exists_encode_or_exists_fault`). The heart of this is one
character: its bytes say what it is (`exists_lead_of_utf8EncodeChar`), and bytes that say what a
character is are its bytes (`utf8EncodeChar_of_lead`).
-/

namespace ScriptLint

namespace Utf8

/-- The bytes behind the first one of a character: the second lies in a range of its own, the others
carry six bits each. -/
def TailFits (low high : Nat) : List UInt8 → Prop
  | [] => True
  | b :: bs => (low ≤ b.toNat ∧ b.toNat ≤ high) ∧ TailFits 0x80 0xbf bs

/-- The bits of the first byte with those of the bytes behind it. -/
def tailValue (bits : Nat) (tail : List UInt8) : Nat :=
  tail.foldl (fun bits b => bits * 64 + (b.toNat - 0x80)) bits

/-- A further byte adds its six bits. -/
theorem tailValue_cons (bits : Nat) (b : UInt8) (tail : List UInt8) :
    tailValue bits (b :: tail) = tailValue (bits * 64 + (b.toNat - 0x80)) tail := by
  rw [tailValue, tailValue, List.foldl_cons]

/-- Reading the tail of a character succeeds if there are enough bytes that fit. -/
theorem readTail_eq_ok_iff {k bits low high seen code : Nat} {bytes : List UInt8} :
    readTail k bits low high seen bytes = .ok code ↔
      ∃ tail rest, bytes = tail ++ rest ∧ tail.length = k ∧ TailFits low high tail ∧
        tailValue bits tail = code := by
  induction k generalizing bits low high seen bytes with
  | zero =>
    have hread : readTail 0 bits low high seen bytes = .ok bits := by cases bytes <;> rfl
    rw [hread]
    constructor
    · intro h
      cases h
      exact ⟨[], bytes, rfl, rfl, trivial, rfl⟩
    · rintro ⟨tail, rest, -, hlen, -, rfl⟩
      rw [List.length_eq_zero_iff.1 hlen]
      rfl
  | succ k ih =>
    cases bytes with
    | nil =>
      constructor
      · intro h
        cases h
      · rintro ⟨tail, rest, hbytes, hlen, -, -⟩
        simp [(List.append_eq_nil_iff.1 hbytes.symm).1] at hlen
    | cons b bytes =>
      rw [readTail]
      split
      · rename_i hfits
        rw [Bool.and_eq_true, decide_eq_true_eq, decide_eq_true_eq] at hfits
        rw [ih]
        constructor
        · rintro ⟨tail, rest, rfl, rfl, htail, rfl⟩
          exact ⟨b :: tail, rest, rfl, rfl, ⟨hfits, htail⟩, tailValue_cons _ _ _⟩
        · rintro ⟨_ | ⟨_, tail⟩, rest, hbytes, hlen, htail, hcode⟩
          · cases hlen
          · cases hbytes
            rw [tailValue_cons] at hcode
            exact ⟨tail, rest, rfl, Nat.succ.inj hlen, htail.2, hcode⟩
      · rename_i hfits
        constructor
        · intro h
          cases h
        · rintro ⟨_ | ⟨_, tail⟩, rest, hbytes, hlen, htail, hcode⟩
          · cases hlen
          · cases hbytes
            exact absurd htail.1 (by simpa using hfits)

/-- The bytes of a character are passed over. -/
theorem decodeFrom_append (position : Nat) (tail rest : List UInt8) :
    decodeFrom position tail.length (tail ++ rest) =
      decodeFrom (position + tail.length) 0 rest := by
  induction tail generalizing position with
  | nil => rfl
  | cons b tail ih =>
    rw [List.length_cons, List.cons_append, decodeFrom, ih]
    congr 1
    omega

/-- A number below 256 is the value of its byte. -/
theorem toNat_byte {n : Nat} (h : n < 256) : (UInt8.ofNat n).toNat = n := by
  rw [UInt8.toNat_ofNat', Nat.mod_eq_of_lt h]

/-- A valid code is the code of its character. -/
theorem toNat_ofNat {n : Nat} (h : n.isValidChar) : (Char.ofNat n).val.toNat = n := by
  rw [Char.ofNat, dif_pos h]
  rfl

/-- The first bytes of characters, by the number of bytes that follow. -/
theorem lead?_eq_some_iff {b : UInt8} {l : Lead} :
    lead? b = some l ↔
      b.toNat < 0x80 ∧ l = ⟨0, b.toNat, 0x80, 0xbf⟩ ∨
      (0xc2 ≤ b.toNat ∧ b.toNat < 0xe0) ∧ l = ⟨1, b.toNat - 0xc0, 0x80, 0xbf⟩ ∨
      (0xe0 ≤ b.toNat ∧ b.toNat < 0xf0) ∧
        l = ⟨2, b.toNat - 0xe0, if b.toNat = 0xe0 then 0xa0 else 0x80,
          if b.toNat = 0xed then 0x9f else 0xbf⟩ ∨
      (0xf0 ≤ b.toNat ∧ b.toNat < 0xf5) ∧
        l = ⟨3, b.toNat - 0xf0, if b.toNat = 0xf0 then 0x90 else 0x80,
          if b.toNat = 0xf4 then 0x8f else 0xbf⟩ := by
  unfold lead?
  dsimp only
  generalize b.toNat = n
  grind

section
variable {c : Char} {b : UInt8} {tail : List UInt8}

/-- The bytes of a character say what it is. -/
theorem exists_lead_of_utf8EncodeChar (h : String.utf8EncodeChar c = b :: tail) :
    ∃ l, lead? b = some l ∧ tail.length = l.tail ∧ TailFits l.low l.high tail ∧
      tailValue l.bits tail = c.val.toNat := by
  have hvalid : c.val.toNat < 0xd800 ∨ 0xdfff < c.val.toNat ∧ c.val.toNat < 0x110000 := c.valid
  rw [String.utf8EncodeChar.eq_def] at h
  dsimp only at h
  generalize c.val.toNat = v at h hvalid ⊢
  simp only [lead?_eq_some_iff]
  have hlast : (UInt8.ofNat (v % 64 + 128)).toNat = v % 64 + 128 := toNat_byte (by omega)
  have hnext : (UInt8.ofNat (v / 64 % 64 + 128)).toNat = v / 64 % 64 + 128 := toNat_byte (by omega)
  split at h
  · cases h
    have hfirst : (UInt8.ofNat v).toNat = v := toNat_byte (by omega)
    exact ⟨_, .inl ⟨by omega, rfl⟩, rfl, trivial, hfirst⟩
  · split at h
    · cases h
      have hfirst : (UInt8.ofNat (v / 64 % 32 + 192)).toNat = v / 64 + 192 :=
        (toNat_byte (by omega)).trans (by omega)
      refine ⟨_, .inr (.inl ⟨by omega, rfl⟩), rfl, ⟨?_, trivial⟩, ?_⟩
      · dsimp only
        omega
      · simp only [tailValue, List.foldl_cons, List.foldl_nil]
        omega
    · split at h
      · cases h
        have hfirst : (UInt8.ofNat (v / 4096 % 16 + 224)).toNat = v / 4096 + 224 :=
          (toNat_byte (by omega)).trans (by omega)
        refine ⟨_, .inr (.inr (.inl ⟨by omega, rfl⟩)), rfl, ⟨?_, ?_, trivial⟩, ?_⟩
        · dsimp only
          split <;> split <;> omega
        · omega
        · simp only [tailValue, List.foldl_cons, List.foldl_nil]
          omega
      · cases h
        have hfirst : (UInt8.ofNat (v / 262144 % 8 + 240)).toNat = v / 262144 + 240 :=
          (toNat_byte (by omega)).trans (by omega)
        have hsecond : (UInt8.ofNat (v / 4096 % 64 + 128)).toNat = v / 4096 % 64 + 128 :=
          toNat_byte (by omega)
        refine ⟨_, .inr (.inr (.inr ⟨by omega, rfl⟩)), rfl, ⟨?_, ?_, ?_, trivial⟩, ?_⟩
        · dsimp only
          split <;> split <;> omega
        · omega
        · omega
        · simp only [tailValue, List.foldl_cons, List.foldl_nil]
          omega

/-- Bytes that say what a character is are the bytes of this character. -/
theorem utf8EncodeChar_of_lead {l : Lead} (hl : lead? b = some l) (hlen : tail.length = l.tail)
    (hfits : TailFits l.low l.high tail) :
    String.utf8EncodeChar (Char.ofNat (tailValue l.bits tail)) = b :: tail := by
  have hbyte : ∀ {n : Nat} {b : UInt8}, n = b.toNat → UInt8.ofNat n = b := by
    rintro n b rfl
    exact UInt8.ofNat_toNat
  rw [String.utf8EncodeChar.eq_def]
  dsimp only
  rcases lead?_eq_some_iff.1 hl with ⟨hb, rfl⟩ | ⟨hb, rfl⟩ | ⟨hb, rfl⟩ | ⟨hb, rfl⟩
  · obtain rfl := List.length_eq_zero_iff.1 hlen
    have hvalid : (tailValue b.toNat []).isValidChar := .inl (by simp [tailValue]; omega)
    rw [toNat_ofNat hvalid, tailValue, List.foldl_nil, if_pos (by omega), hbyte rfl]
  · obtain ⟨b₁, rfl⟩ := List.length_eq_one_iff.1 hlen
    obtain ⟨hb₁, -⟩ := hfits
    dsimp only at hb₁
    have hvalid : (tailValue (b.toNat - 0xc0) [b₁]).isValidChar := .inl (by simp [tailValue]; omega)
    rw [toNat_ofNat hvalid, tailValue, List.foldl_cons, List.foldl_nil, if_neg (by omega),
      if_pos (by omega), List.cons_eq_cons, List.cons_eq_cons]
    exact ⟨hbyte (by omega), hbyte (by omega), rfl⟩
  · obtain ⟨b₁, b₂, rfl⟩ := List.length_eq_two.1 hlen
    obtain ⟨hb₁, hb₂, -⟩ := hfits
    have hrange : (0x80 ≤ b₁.toNat ∧ b₁.toNat ≤ 0xbf) ∧ (b.toNat = 0xe0 → 0xa0 ≤ b₁.toNat) ∧
        (b.toNat = 0xed → b₁.toNat ≤ 0x9f) := by
      dsimp only at hb₁
      split at hb₁ <;> split at hb₁ <;> omega
    have hvalid : (tailValue (b.toNat - 0xe0) [b₁, b₂]).isValidChar := by
      simp only [tailValue, List.foldl_cons, List.foldl_nil, Nat.isValidChar]
      omega
    rw [toNat_ofNat hvalid, tailValue, List.foldl_cons, List.foldl_cons, List.foldl_nil,
      if_neg (by omega), if_neg (by omega), if_pos (by omega), List.cons_eq_cons,
      List.cons_eq_cons, List.cons_eq_cons]
    exact ⟨hbyte (by omega), hbyte (by omega), hbyte (by omega), rfl⟩
  · obtain ⟨b₁, b₂, b₃, rfl⟩ := List.length_eq_three.1 hlen
    obtain ⟨hb₁, hb₂, hb₃, -⟩ := hfits
    have hrange : (0x80 ≤ b₁.toNat ∧ b₁.toNat ≤ 0xbf) ∧ (b.toNat = 0xf0 → 0x90 ≤ b₁.toNat) ∧
        (b.toNat = 0xf4 → b₁.toNat ≤ 0x8f) := by
      dsimp only at hb₁
      split at hb₁ <;> split at hb₁ <;> omega
    have hvalid : (tailValue (b.toNat - 0xf0) [b₁, b₂, b₃]).isValidChar := by
      simp only [tailValue, List.foldl_cons, List.foldl_nil, Nat.isValidChar]
      omega
    rw [toNat_ofNat hvalid, tailValue, List.foldl_cons, List.foldl_cons, List.foldl_cons,
      List.foldl_nil, if_neg (by omega), if_neg (by omega), if_neg (by omega), List.cons_eq_cons,
      List.cons_eq_cons, List.cons_eq_cons, List.cons_eq_cons]
    exact ⟨hbyte (by omega), hbyte (by omega), hbyte (by omega), hbyte (by omega), rfl⟩

end

/-- The bytes of characters. -/
def encode (cs : List Char) : List UInt8 := cs.flatMap String.utf8EncodeChar

/-- One character is decoded from its own bytes, and the others from what is left. -/
theorem decodeFrom_utf8EncodeChar_append (position : Nat) (c : Char) (rest : List UInt8) :
    decodeFrom position 0 (String.utf8EncodeChar c ++ rest) =
      (decodeFrom (position + (String.utf8EncodeChar c).length) 0 rest).map (c :: ·) := by
  cases hbytes : String.utf8EncodeChar c with
  | nil =>
    have hlen := String.length_utf8EncodeChar c
    rw [hbytes] at hlen
    exact absurd hlen.symm (Nat.ne_of_gt c.utf8Size_pos)
  | cons b tail =>
    obtain ⟨l, hl, hlen, hfits, hcode⟩ := exists_lead_of_utf8EncodeChar hbytes
    have hread : readTail l.tail l.bits l.low l.high 1 (tail ++ rest) = .ok c.val.toNat :=
      readTail_eq_ok_iff.2 ⟨tail, rest, rfl, hlen, hfits, hcode⟩
    have hc : Char.ofNat c.val.toNat = c := Char.ofNat_toNat c
    rw [List.cons_append, decodeFrom, hl]
    dsimp only
    rw [hread, ← hlen, decodeFrom_append, List.length_cons]
    dsimp only
    rw [hc, Nat.add_assoc, Nat.add_comm 1]

/-- What is decoded starts with the bytes of a character. -/
theorem exists_utf8EncodeChar_of_decodeFrom {position : Nat} {b : UInt8} {bytes : List UInt8}
    {cs : List Char} (h : decodeFrom position 0 (b :: bytes) = .ok cs) :
    ∃ c rest, b :: bytes = String.utf8EncodeChar c ++ rest := by
  rw [decodeFrom] at h
  cases hl : lead? b with
  | none =>
    rw [hl] at h
    cases h
  | some l =>
    cases hread : readTail l.tail l.bits l.low l.high 1 bytes with
    | error e =>
      simp only [hl, hread] at h
      cases h
    | ok code =>
      obtain ⟨tail, rest, rfl, hlen, hfits, -⟩ := readTail_eq_ok_iff.1 hread
      exact ⟨_, rest, by rw [utf8EncodeChar_of_lead hl hlen hfits, List.cons_append]⟩

/-- The encoding of a text is decoded as the text. -/
theorem decodeFrom_encode (position : Nat) (cs : List Char) :
    decodeFrom position 0 (encode cs) = .ok cs := by
  induction cs generalizing position with
  | nil => rfl
  | cons c cs ih =>
    rw [encode, List.flatMap_cons, decodeFrom_utf8EncodeChar_append, ← encode, ih]
    rfl

/-- Bytes that are decoded as a text are its encoding. -/
theorem encode_of_decodeFrom {position : Nat} {bytes : List UInt8} {cs : List Char}
    (h : decodeFrom position 0 bytes = .ok cs) : encode cs = bytes := by
  induction cs generalizing position bytes with
  | nil =>
    cases bytes with
    | nil => rfl
    | cons b bytes =>
      obtain ⟨c, rest, hbytes⟩ := exists_utf8EncodeChar_of_decodeFrom h
      rw [hbytes, decodeFrom_utf8EncodeChar_append] at h
      cases hrest : decodeFrom (position + (String.utf8EncodeChar c).length) 0 rest <;>
        (rw [hrest] at h; cases h)
  | cons c cs ih =>
    cases bytes with
    | nil => cases h
    | cons b bytes =>
      obtain ⟨c', rest, hbytes⟩ := exists_utf8EncodeChar_of_decodeFrom h
      rw [hbytes, decodeFrom_utf8EncodeChar_append] at h
      cases hrest : decodeFrom (position + (String.utf8EncodeChar c').length) 0 rest with
      | error fault =>
        rw [hrest] at h
        cases h
      | ok cs' =>
        rw [hrest] at h
        cases h
        rw [hbytes, encode, List.flatMap_cons, ← encode, ih hrest]

/-- **Decoding is the inverse of encoding**: exactly the bytes of characters can be decoded, and
what comes out are these characters. -/
theorem decode_eq_ok_iff {bytes : List UInt8} {cs : List Char} :
    decode bytes = .ok cs ↔ encode cs = bytes := by
  constructor
  · exact encode_of_decodeFrom
  · rintro rfl
    exact decodeFrom_encode 0 cs

/-- Bytes are those of characters, or there is a fault. -/
theorem exists_encode_or_exists_fault (bytes : List UInt8) :
    (∃ cs, encode cs = bytes) ∨ ∃ fault, decode bytes = .error fault ∧ ∀ cs, encode cs ≠ bytes := by
  cases h : decode bytes with
  | error fault =>
    refine .inr ⟨fault, rfl, fun cs hbytes => ?_⟩
    rw [decode_eq_ok_iff.2 hbytes] at h
    cases h
  | ok cs => exact .inl ⟨cs, decode_eq_ok_iff.1 h⟩

end Utf8

end ScriptLint
