import Mathlib.Data.List.TakeWhile
import ScriptLint.Source.Scan

/-!
# What a scan finds

`Rule.scan` is exact for the rules of this library. Every match it lists is a match of the rule at
its column (`Rule.matchesAt_of_mem_scan`), the matches are disjoint and listed from left to right
(`Rule.pairwise_scan`), and a match is missed only if an earlier one runs over its start
(`Rule.mem_scan_of_matchesAt`).

For a rule on whole words nothing is missed: the scan of `wordRule read` lists the maximal runs of
word characters (`WordAt`) that `read` accepts (`mem_scan_wordRule`). The search forms
`Rule.occurs` and `Rule.first?` follow.
-/

namespace ScriptLint

section
variable {α : Type} {rule : Rule α}

/-! ## Matches of any rule -/

/-- A rule matches in a text at the column of `f`, with the width and the value of `f`. -/
def Rule.MatchesAt (rule : Rule α) (text : List Char) (f : Found α) : Prop :=
  ∃ before rest, text = before ++ rest ∧ rest ≠ [] ∧ before.length = f.column ∧
    rule before.getLast? rest = some (f.width, f.value)

/-- The last character of a text behind `prev`, with one more character in front. -/
theorem getLast?_cons_or (c : Char) (cs : List Char) (prev : Option Char) :
    (c :: cs).getLast?.or prev = cs.getLast?.or (some c) := by
  rw [List.getLast?_cons]
  cases cs.getLast? <;> rfl

/-- A match found from a column on is a match of the rule behind the busy characters. -/
theorem Rule.of_mem_scanFrom {column busy : Nat} {prev : Option Char} {cs : List Char}
    {f : Found α} (h : f ∈ rule.scanFrom column prev busy cs) :
    ∃ before rest, cs = before ++ rest ∧ rest ≠ [] ∧ f.column = column + before.length ∧
      busy ≤ before.length ∧ rule (before.getLast?.or prev) rest = some (f.width, f.value) := by
  induction cs generalizing column prev busy with
  | nil => cases h
  | cons c cs ih =>
    -- a match behind `c`, found with `k` characters still busy
    have later {k : Nat} (h : f ∈ rule.scanFrom (column + 1) (some c) k cs) :
        ∃ before rest, c :: cs = before ++ rest ∧ rest ≠ [] ∧ f.column = column + before.length ∧
          k < before.length ∧ rule (before.getLast?.or prev) rest = some (f.width, f.value) := by
      obtain ⟨before, rest, rfl, hne, hcol, hk, hr⟩ := ih h
      refine ⟨c :: before, rest, rfl, hne, ?_, Nat.lt_succ_of_le hk, ?_⟩
      · rw [hcol, List.length_cons]; omega
      · rw [getLast?_cons_or]; exact hr
    cases busy with
    | succ k =>
      obtain ⟨before, rest, h1, h2, h3, h4, h5⟩ := later h
      exact ⟨before, rest, h1, h2, h3, h4, h5⟩
    | zero =>
      simp only [Rule.scanFrom] at h
      split at h
      · rename_i width value hr
        rcases List.mem_cons.1 h with rfl | h
        · exact ⟨[], c :: cs, rfl, List.cons_ne_nil _ _, rfl, Nat.le_refl _, hr⟩
        · obtain ⟨before, rest, h1, h2, h3, _, h5⟩ := later h
          exact ⟨before, rest, h1, h2, h3, Nat.zero_le _, h5⟩
      · obtain ⟨before, rest, h1, h2, h3, _, h5⟩ := later h
        exact ⟨before, rest, h1, h2, h3, Nat.zero_le _, h5⟩

/-- Every listed match is one. -/
theorem Rule.matchesAt_of_mem_scan {text : List Char} {f : Found α} (h : f ∈ rule.scan text) :
    rule.MatchesAt text f := by
  obtain ⟨before, rest, h1, h2, h3, _, h5⟩ := Rule.of_mem_scanFrom h
  rw [Option.or_none] at h5
  exact ⟨before, rest, h1, h2, by omega, h5⟩

/-- One match ends before the next one starts. -/
def Found.Before (f g : Found α) : Prop := f.column < g.column ∧ f.column + f.width ≤ g.column

/-- The matches that a search lists do not overlap, wherever it starts. -/
theorem Rule.pairwise_scanFrom (rule : Rule α) (column busy : Nat) (prev : Option Char)
    (cs : List Char) : (rule.scanFrom column prev busy cs).Pairwise Found.Before := by
  induction cs generalizing column prev busy with
  | nil => exact .nil
  | cons c cs ih =>
    cases busy with
    | succ k => exact ih _ _ _
    | zero =>
      simp only [Rule.scanFrom]
      split
      · rename_i width value _
        refine List.pairwise_cons.2 ⟨fun g hg => ?_, ih _ _ _⟩
        obtain ⟨before, _, _, _, hcol, hbusy, _⟩ := Rule.of_mem_scanFrom hg
        show column < g.column ∧ column + width ≤ g.column
        omega
      · exact ih _ _ _

/-- The matches are disjoint and come from left to right. -/
theorem Rule.pairwise_scan (rule : Rule α) (text : List Char) :
    (rule.scan text).Pairwise Found.Before :=
  rule.pairwise_scanFrom 0 0 none text

/-- A match behind the busy characters is found if no match before it, behind the busy characters
as well, runs over its start. -/
theorem Rule.mem_scanFrom {column busy width : Nat} {prev : Option Char}
    {before rest : List Char} {value : α} (hrest : rest ≠ []) (hbusy : busy ≤ before.length)
    (hr : rule (before.getLast?.or prev) rest = some (width, value))
    (hfree : ∀ front mid w v, before = front ++ mid → mid ≠ [] → busy ≤ front.length →
      rule (front.getLast?.or prev) (mid ++ rest) = some (w, v) → w ≤ mid.length) :
    ⟨column + before.length, width, value⟩ ∈
      rule.scanFrom column prev busy (before ++ rest) := by
  induction before generalizing column prev busy with
  | nil =>
    obtain ⟨c, cs, rfl⟩ := List.exists_cons_of_ne_nil hrest
    obtain rfl : busy = 0 := Nat.le_zero.1 hbusy
    have hr : rule prev (c :: cs) = some (width, value) := hr
    simp only [List.nil_append, Rule.scanFrom, hr]
    exact List.mem_cons_self
  | cons c before ih =>
    -- the scan behind `c`, with `k` characters still busy
    have later (k : Nat) (hk : k ≤ before.length) (hle : busy ≤ k + 1) :
        ⟨column + (c :: before).length, width, value⟩ ∈
          rule.scanFrom (column + 1) (some c) k (before ++ rest) := by
      rw [getLast?_cons_or] at hr
      rw [List.length_cons, Nat.add_comm before.length, ← Nat.add_assoc]
      refine ih hk hr fun front mid w v hb hmid hfront hv => ?_
      exact hfree (c :: front) mid w v (by rw [hb]; rfl) hmid
        (by rw [List.length_cons]; omega) (by rw [getLast?_cons_or]; exact hv)
    rw [List.cons_append]
    cases busy with
    | succ k =>
      rw [List.length_cons] at hbusy
      exact later k (by omega) (Nat.le_refl _)
    | zero =>
      simp only [Rule.scanFrom]
      split
      · rename_i w v hw
        have hle := hfree [] (c :: before) w v rfl (List.cons_ne_nil _ _) (Nat.zero_le _) hw
        rw [List.length_cons] at hle
        exact List.mem_cons_of_mem _ (later (w - 1) (by omega) (Nat.zero_le _))
      · exact later 0 (Nat.zero_le _) (Nat.zero_le _)

/-- A match is found if no match before it runs over its start. -/
theorem Rule.mem_scan_of_matchesAt {text : List Char} {f : Found α} (h : rule.MatchesAt text f)
    (hfree : ∀ g, rule.MatchesAt text g → g.column < f.column → g.column + g.width ≤ f.column) :
    f ∈ rule.scan text := by
  obtain ⟨before, rest, rfl, hrest, hcol, hr⟩ := h
  have hf : f = ⟨0 + before.length, f.width, f.value⟩ := by rw [Nat.zero_add, hcol]
  rw [hf]
  refine Rule.mem_scanFrom hrest (Nat.zero_le _) (by rwa [Option.or_none]) ?_
  rintro front mid w v rfl hmid - hv
  rw [Option.or_none] at hv
  have hpos := List.length_pos_iff.2 hmid
  rw [List.length_append] at hcol
  have := hfree ⟨front.length, w, v⟩
    ⟨front, mid ++ rest, by rw [List.append_assoc], by simp [hrest], rfl, hv⟩
    (by show front.length < f.column; omega)
  replace this : front.length + w ≤ f.column := this
  omega

/-- Of two listed matches, the one that starts first ends before the other one starts. -/
theorem Rule.le_column_of_mem_of_mem {text : List Char} {f g : Found α} (hf : f ∈ rule.scan text)
    (hg : g ∈ rule.scan text) (hlt : f.column < g.column) : f.column + f.width ≤ g.column := by
  have hscan := rule.pairwise_scan text
  refine List.Pairwise.forall_of_forall_of_flip
    (R := fun f g => f.column < g.column → f.column + f.width ≤ g.column) ?_ ?_ ?_ hf hg hlt
  · intro f _ hlt
    exact absurd hlt (Nat.lt_irrefl _)
  · exact hscan.imp fun hbefore _ => hbefore.2
  · exact hscan.imp fun hbefore hlt => absurd hlt (Nat.not_lt_of_lt hbefore.1)

/-- Where matches that overlap end together, a listed match starts inside of no other match: the
first one that runs over its start would be listed too. -/
theorem Rule.le_column_of_mem_scan {text : List Char} {f : Found α} (h : f ∈ rule.scan text)
    (htogether : ∀ g g', rule.MatchesAt text g → rule.MatchesAt text g' → g.column < g'.column →
      g'.column < g.column + g.width → g.column + g.width = g'.column + g'.width)
    {g : Found α} (hg : rule.MatchesAt text g) (hlt : g.column < f.column) :
    g.column + g.width ≤ f.column := by
  induction hcolumn : g.column using Nat.strong_induction_on generalizing g with
  | _ column ih =>
    subst hcolumn
    by_cases hmem : g ∈ rule.scan text
    · exact Rule.le_column_of_mem_of_mem hmem h hlt
    · -- a match that is not listed overlaps an earlier one, and ends with it
      by_contra hover
      refine hmem (Rule.mem_scan_of_matchesAt hg ?_)
      intro g' hg' hlt'
      by_contra hover'
      have hend := htogether g' g hg' hg hlt' (Nat.lt_of_not_le hover')
      have := ih g'.column hlt' hg' (Nat.lt_trans hlt' hlt) rfl
      omega

end

/-! ## Runs of characters -/

/-- A run of characters that satisfy `p`, in front of one that does not, is what `takeWhile`
takes. -/
theorem takeWhile_run {p : Char → Bool} {run rest : List Char} (hrun : ∀ c ∈ run, p c = true)
    (hrest : rest.head?.any p = false) : (run ++ rest).takeWhile p = run := by
  rw [List.takeWhile_append_of_pos hrun]
  cases rest with
  | nil => simp
  | cons c cs => rw [List.takeWhile_cons_of_neg (by simpa using hrest), List.append_nil]

/-- Behind such a run `dropWhile` leaves the rest. -/
theorem dropWhile_run {p : Char → Bool} {run rest : List Char} (hrun : ∀ c ∈ run, p c = true)
    (hrest : rest.head?.any p = false) : (run ++ rest).dropWhile p = rest := by
  rw [List.dropWhile_append_of_pos hrun]
  cases rest with
  | nil => rfl
  | cons c cs => exact List.dropWhile_cons_of_neg (by simpa using hrest)

/-- What `dropWhile` leaves does not go on with the run. -/
theorem head?_dropWhile_any (p : Char → Bool) (cs : List Char) :
    (cs.dropWhile p).head?.any p = false := by
  have := List.head?_dropWhile_not p cs
  cases h : (cs.dropWhile p).head? with
  | none => rfl
  | some c => simpa [h] using this

/-! ## Whole words -/

/-- A text is a word: it is not empty and has word characters only. -/
def IsWord (cs : List Char) : Prop := cs ≠ [] ∧ ∀ c ∈ cs, isWordChar c = true

/-- A word stands at a column of a text as a whole: no word character comes right before or right
behind it. -/
def WordAt (text : List Char) (column : Nat) (word : List Char) : Prop :=
  ∃ before after, text = before ++ word ++ after ∧ before.length = column ∧ IsWord word ∧
    before.getLast?.any isWordChar = false ∧ after.head?.any isWordChar = false

/-- A word stands somewhere in a text as a whole. -/
def HasWord (text word : List Char) : Prop := ∃ column, WordAt text column word

section
variable {α : Type} {read : List Char → Option α}

/-- `wordRule read` matches a whole word that `read` accepts. -/
theorem wordRule_eq_some_iff {prev : Option Char} {cs : List Char} {width : Nat} {value : α} :
    wordRule read prev cs = some (width, value) ↔ prev.any isWordChar = false ∧
      ∃ word after, cs = word ++ after ∧ IsWord word ∧ after.head?.any isWordChar = false ∧
        read word = some value ∧ width = word.length := by
  simp only [wordRule]
  constructor
  · intro h
    split at h
    · cases h
    · rename_i hprev
      split at h
      · cases h
      · rename_i hword
        obtain ⟨v, hv, heq⟩ := Option.map_eq_some_iff.1 h
        cases heq
        refine ⟨by simpa using hprev, cs.takeWhile isWordChar, cs.dropWhile isWordChar,
          List.takeWhile_append_dropWhile.symm, ⟨by simpa using hword, ?_⟩,
          head?_dropWhile_any _ _, hv, rfl⟩
        exact fun c hc => List.mem_takeWhile_imp hc
  · rintro ⟨hprev, word, after, rfl, ⟨hne, hall⟩, hafter, hread, rfl⟩
    rw [takeWhile_run hall hafter, if_neg (by simp [hprev]), if_neg (by simpa using hne), hread]
    rfl

/-- The matches of a word rule are the whole words that it accepts. -/
theorem matchesAt_wordRule {text : List Char} {f : Found α} :
    (wordRule read).MatchesAt text f ↔
      ∃ word, WordAt text f.column word ∧ read word = some f.value ∧ f.width = word.length := by
  constructor
  · rintro ⟨before, rest, rfl, -, hcol, hr⟩
    obtain ⟨hprev, word, after, rfl, hword, hafter, hread, hwidth⟩ := wordRule_eq_some_iff.1 hr
    exact ⟨word, ⟨before, after, by rw [List.append_assoc], hcol, hword, hprev, hafter⟩, hread,
      hwidth⟩
  · rintro ⟨word, ⟨before, after, rfl, hcol, hword, hprev, hafter⟩, hread, hwidth⟩
    exact ⟨before, word ++ after, by rw [List.append_assoc], by simp [hword.1], hcol,
      wordRule_eq_some_iff.2 ⟨hprev, word, after, rfl, hword, hafter, hread, hwidth⟩⟩

/-- A whole word that starts behind the start of another one starts behind its end. -/
theorem WordAt.disjoint {text w w' : List Char} {a b : Nat} (ha : WordAt text a w)
    (hb : WordAt text b w') (hab : a < b) : a + w.length ≤ b := by
  obtain ⟨before, after, rfl, rfl, ⟨-, hall⟩, -, -⟩ := ha
  obtain ⟨before', after', heq, rfl, -, hprev, -⟩ := hb
  by_contra hlt
  -- the character before `b` would belong to the first word
  have hlast : before'.getLast? = w[before'.length - 1 - before.length]? := by
    rw [List.getLast?_eq_getElem?]
    have h1 : (before' ++ w' ++ after')[before'.length - 1]? = before'[before'.length - 1]? := by
      rw [List.append_assoc, List.getElem?_append_left (by omega)]
    rw [← h1, ← heq, List.append_assoc, List.getElem?_append_right (by omega),
      List.getElem?_append_left (by omega)]
  have hin : before'.length - 1 - before.length < w.length := by omega
  rw [hlast, List.getElem?_eq_getElem hin, Option.any_some, hall _ (List.getElem_mem hin)] at hprev
  cases hprev

/-- The scan of a word rule lists the whole words that it accepts. -/
theorem mem_scan_wordRule {text : List Char} {f : Found α} :
    f ∈ (wordRule read).scan text ↔
      ∃ word, WordAt text f.column word ∧ read word = some f.value ∧ f.width = word.length := by
  constructor
  · exact fun h => matchesAt_wordRule.1 (Rule.matchesAt_of_mem_scan h)
  · intro h
    refine Rule.mem_scan_of_matchesAt (matchesAt_wordRule.2 h) fun g hg hlt => ?_
    obtain ⟨word, hword, -, -⟩ := h
    obtain ⟨word', hword', -, hwidth⟩ := matchesAt_wordRule.1 hg
    rw [hwidth]
    exact hword'.disjoint hword hlt

/-- A word rule occurs in a text that has a whole word it accepts. -/
theorem occurs_wordRule {text : List Char} :
    (wordRule read).occurs text = true ↔ ∃ word, HasWord text word ∧ (read word).isSome := by
  rw [Rule.occurs, Bool.not_eq_true', List.isEmpty_eq_false_iff_exists_mem]
  constructor
  · rintro ⟨f, hf⟩
    obtain ⟨word, hword, hread, -⟩ := mem_scan_wordRule.1 hf
    exact ⟨word, ⟨_, hword⟩, by rw [hread]; rfl⟩
  · rintro ⟨word, ⟨column, hword⟩, hread⟩
    obtain ⟨value, hread⟩ := Option.isSome_iff_exists.1 hread
    exact ⟨⟨column, word.length, value⟩, mem_scan_wordRule.2 ⟨word, hword, hread, rfl⟩⟩

/-- A table of spellings, each of which finds its own entry, finds an entry by its spelling only. -/
theorem find?_spelling_eq_some_iff {κ : Type} {table : List κ} (spelling : κ → List Char)
    (htable : ∀ k, table.find? (spelling · == spelling k) = some k) {word : List Char} {k : κ} :
    table.find? (spelling · == word) = some k ↔ word = spelling k := by
  constructor
  · intro h
    exact (beq_iff_eq.1 (List.find?_some h :)).symm
  · rintro rfl
    exact htable k

/-- A rule for one word occurs where that word does. -/
theorem occurs_wordRule_eq {text word : List Char} :
    (wordRule fun w => if w = word then some () else none).occurs text = true ↔
      HasWord text word := by
  rw [occurs_wordRule]
  constructor
  · rintro ⟨w, hword, hread⟩
    split at hread
    · rename_i heq; rwa [heq] at hword
    · cases hread
  · exact fun h => ⟨_, h, by rw [if_pos rfl]; rfl⟩

/-- The first match of a word rule is at the leftmost whole word that it accepts. -/
theorem first?_wordRule {text : List Char} {value : α} :
    (wordRule read).first? text = some value ↔
      ∃ column word, WordAt text column word ∧ read word = some value ∧
        ∀ column' word', WordAt text column' word' → (read word').isSome → column ≤ column' := by
  have hscan := (wordRule read).pairwise_scan text
  simp only [Rule.first?, Option.map_eq_some_iff]
  constructor
  · rintro ⟨f, hf, rfl⟩
    obtain ⟨fs, hfs⟩ := List.head?_eq_some_iff.1 hf
    obtain ⟨word, hword, hread, -⟩ := mem_scan_wordRule.1 (hfs ▸ List.mem_cons_self)
    refine ⟨f.column, word, hword, hread, fun column' word' hword' hread' => ?_⟩
    obtain ⟨value', hread'⟩ := Option.isSome_iff_exists.1 hread'
    have hmem : (⟨column', word'.length, value'⟩ : Found α) ∈ f :: fs :=
      hfs ▸ mem_scan_wordRule.2 ⟨word', hword', hread', rfl⟩
    rw [hfs, List.pairwise_cons] at hscan
    rcases List.mem_cons.1 hmem with rfl | hmem
    · exact Nat.le_refl _
    · exact Nat.le_of_lt (hscan.1 _ hmem).1
  · rintro ⟨column, word, hword, hread, hmin⟩
    have hmem : ⟨column, word.length, value⟩ ∈ (wordRule read).scan text :=
      mem_scan_wordRule.2 ⟨word, hword, hread, rfl⟩
    cases hfs : (wordRule read).scan text with
    | nil => rw [hfs] at hmem; cases hmem
    | cons f fs =>
      refine ⟨f, rfl, ?_⟩
      obtain ⟨word', hword', hread', -⟩ := mem_scan_wordRule.1 (hfs ▸ List.mem_cons_self)
      have hle := hmin f.column word' hword' (by rw [hread']; rfl)
      rw [hfs] at hmem hscan
      rcases List.mem_cons.1 hmem with rfl | hmem
      · rfl
      · have hlt : f.column < column := ((List.pairwise_cons.1 hscan).1 _ hmem).1
        omega

end

end ScriptLint
