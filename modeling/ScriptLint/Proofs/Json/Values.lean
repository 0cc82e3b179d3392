import ScriptLint.Proofs.Json.Scalars
import ScriptLint.Proofs.Mapping

/-!
# JSON values are read back

`Plain` values are those that have no doubles, no integers that are too long to be read and no key
twice in a mapping. Reading the text of such a value gives the value, whatever the level of
indentation, what follows the text and how much fuel there is beyond its length (`Plain.readsBack`).
Lists and mappings are read part by part: a part ends where a comma or a line break follows.

`Plain.read?_render` states this for whole texts.
-/

namespace ScriptLint

namespace Json

/-! ## Values -/

/-- Values that are read back as they were written: they hold no doubles, their integers are short
enough to be read, and the keys of their mappings differ. -/
inductive Plain : Value → Prop where
  | null : Plain .null
  | bool (b : Bool) : Plain (.bool b)
  | int {n : Int} (h : (natText n.natAbs).length ≤ maxIntDigits) : Plain (.int n)
  | text (s : String) : Plain (.text s)
  | list {items : List Value} (h : ∀ v ∈ items, Plain v) : Plain (.list items)
  | mapping {entries : List (String × Value)} (hkeys : (entries.map (·.1)).Nodup)
      (h : ∀ e ∈ entries, Plain e.2) : Plain (.mapping entries)

/-- The parts of a block with their commas and line breaks. -/
def blockBody (level : Nat) (parts : List (List Char)) : List Char :=
  (parts.intersperse (',' :: newLine level)).flatten

/-- One part is written by itself. -/
theorem blockBody_singleton (level : Nat) (part : List Char) : blockBody level [part] = part := by
  simp [blockBody]

/-- A comma and a new line stand between two parts. -/
theorem blockBody_cons_cons (level : Nat) (part next : List Char) (parts : List (List Char)) :
    blockBody level (part :: next :: parts) =
      part ++ ',' :: (newLine level ++ blockBody level (next :: parts)) := by
  simp [blockBody, List.intersperse_cons_cons]

/-- A list or mapping that is not empty is written part by part, on lines of their own. -/
theorem block_append (left right : Char) (level : Nat) (part : List Char)
    (parts : List (List Char)) (rest : List Char) :
    block left right level (part :: parts) ++ rest =
      left :: (newLine (level + 1) ++
        (blockBody (level + 1) (part :: parts) ++ (newLine level ++ right :: rest))) := by
  simp [block, blockBody]

/-- The parts of a block are shorter than the block. -/
theorem length_blockBody_lt (left right : Char) (level : Nat) (part : List Char)
    (parts : List (List Char)) :
    (blockBody (level + 1) (part :: parts)).length + 1 <
      (block left right level (part :: parts)).length := by
  have hblock := congrArg List.length (block_append left right level part parts [])
  simp only [List.append_nil, List.length_append, List.length_cons, List.length_nil] at hblock
  omega

/-- The white space of a line break is skipped. -/
theorem skipSpace_newLine (level : Nat) (cs : List Char) :
    skipSpace (newLine level ++ cs) = skipSpace cs := by
  have hspace : ∀ c ∈ newLine level, isSpace c = true := by
    intro c hc
    rcases List.mem_cons.1 hc with rfl | hc
    · rfl
    · rw [List.eq_of_mem_replicate hc]
      rfl
  exact List.dropWhile_append_of_pos hspace

/-- Nothing is skipped before a character that is no space. -/
theorem skipSpace_cons {c : Char} (hc : isSpace c = false) (cs : List Char) :
    skipSpace (c :: cs) = c :: cs :=
  List.dropWhile_cons_of_neg (by rw [hc]; decide)

/-- A list or mapping starts with its bracket. -/
theorem exists_cons_block (left right : Char) (level : Nat) (parts : List (List Char)) :
    ∃ cs, block left right level parts = left :: cs := by
  cases parts with
  | nil => exact ⟨[right], rfl⟩
  | cons part parts =>
    have hblock := block_append left right level part parts []
    rw [List.append_nil] at hblock
    exact ⟨_, hblock⟩

/-- A value starts neither with white space nor with a closing bracket. -/
theorem Plain.exists_cons_write {v : Value} (h : Plain v) (level : Nat) :
    ∃ c cs, write level v = c :: cs ∧ isSpace c = false ∧ c ≠ ']' := by
  cases h with
  | null => exact ⟨'n', _, rfl, rfl, by decide⟩
  | bool b =>
    cases b with
    | true => exact ⟨'t', _, rfl, rfl, by decide⟩
    | false => exact ⟨'f', _, rfl, rfl, by decide⟩
  | @int n h =>
    cases n with
    | ofNat n =>
      obtain ⟨c, cs, heq, hc⟩ := exists_cons_natText n
      have hne (d : Char) (hd : d.isDigit = false) : c ≠ d := ne_of_isDigit hc hd
      refine ⟨c, cs, heq, ?_, hne ']' rfl⟩
      simp [isSpace, hne ' ' rfl, hne '\t' rfl, hne '\n' rfl, hne '\r' rfl]
    | negSucc n => exact ⟨'-', _, rfl, rfl, by decide⟩
  | text s => exact ⟨'"', _, rfl, rfl, by decide⟩
  | @list items h =>
    obtain ⟨cs, heq⟩ := exists_cons_block '[' ']' level (writeItems (level + 1) items)
    exact ⟨'[', cs, by rw [write, heq], rfl, by decide⟩
  | @mapping entries hkeys h =>
    obtain ⟨cs, heq⟩ := exists_cons_block '{' '}' level (writeEntries (level + 1) entries)
    exact ⟨'{', cs, by rw [write, heq], rfl, by decide⟩

/-- A block goes on behind a line break with the first character of its first part. -/
theorem skipSpace_blockBody {c : Char} (hc : isSpace c = false) {part cs : List Char}
    (hpart : part = c :: cs) (level : Nat) (parts : List (List Char)) (rest : List Char) :
    ∃ inside, blockBody level (part :: parts) ++ rest = c :: inside ∧
      skipSpace (newLine level ++ (blockBody level (part :: parts) ++ rest)) = c :: inside := by
  obtain ⟨inside, hinside⟩ : ∃ inside, blockBody level (part :: parts) ++ rest = c :: inside := by
    subst hpart
    cases parts with
    | nil => exact ⟨_, by rw [blockBody_singleton]; rfl⟩
    | cons next parts => exact ⟨_, by rw [blockBody_cons_cons]; rfl⟩
  refine ⟨inside, hinside, ?_⟩
  rw [hinside, skipSpace_newLine, skipSpace_cons hc]

/-- A value is read back whatever follows it, if its text is no longer than the fuel. -/
def ReadsBack (v : Value) : Prop :=
  ∀ (level fuel : Nat) (rest : List Char), (write level v).length ≤ fuel → EndsNumber rest →
    readValue? fuel (write level v ++ rest) = some (v, rest)

/-- A number ends before a new line. -/
theorem endsNumber_newLine (level : Nat) (cs : List Char) : EndsNumber (newLine level ++ cs) :=
  (by decide : continuesNumber '\n' = false)

/-- A number ends before a comma. -/
theorem endsNumber_comma (cs : List Char) : EndsNumber (',' :: cs) :=
  (by decide : continuesNumber ',' = false)

/-- The items of a list are read back. -/
theorem readItems?_blockBody {items : List Value} (hne : items ≠ []) (hplain : ∀ v ∈ items, Plain v)
    (hread : ∀ v ∈ items, ReadsBack v) (level outer : Nat) {fuel : Nat}
    (hfuel : (blockBody level (writeItems level items)).length < fuel) (rest : List Char) :
    readItems? fuel (blockBody level (writeItems level items) ++ (newLine outer ++ ']' :: rest)) =
      some (items, rest) := by
  induction items generalizing fuel with
  | nil => exact absurd rfl hne
  | cons v vs ih =>
    obtain ⟨fuel, rfl⟩ := Nat.exists_eq_add_one_of_ne_zero (Nat.ne_zero_of_lt hfuel)
    obtain ⟨hfirst, hread⟩ := List.forall_mem_cons.1 hread
    obtain ⟨-, hplain⟩ := List.forall_mem_cons.1 hplain
    cases vs with
    | nil =>
      rw [writeItems, writeItems, blockBody_singleton] at hfuel ⊢
      rw [readItems?, hfirst level fuel _ (by omega) (endsNumber_newLine outer _)]
      dsimp only
      rw [skipSpace_newLine]
      rfl
    | cons v' vs =>
      obtain ⟨c, cs, heq, hspace, -⟩ := (hplain v' List.mem_cons_self).exists_cons_write level
      obtain ⟨inside, hinside, hskip⟩ := skipSpace_blockBody hspace heq level (writeItems level vs)
        (newLine outer ++ ']' :: rest)
      rw [← writeItems] at hinside hskip
      rw [writeItems, writeItems, blockBody_cons_cons, ← writeItems, List.length_append,
        List.length_cons, List.length_append] at hfuel
      rw [writeItems, writeItems, blockBody_cons_cons, ← writeItems, List.append_assoc, readItems?,
        List.cons_append, hfirst level fuel _ (by omega) (endsNumber_comma _)]
      dsimp only
      rw [skipSpace_cons (by decide)]
      show (readItems? fuel (skipSpace _)).map _ = _
      rw [List.append_assoc, hskip, ← hinside, ih (List.cons_ne_nil v' vs) hplain hread (by omega)]
      rfl

/-- An entry of a mapping is read back, as the last one or with what the reader finds behind it. -/
theorem readEntries?_entry (key : String) {v : Value} (hplain : Plain v) (hread : ReadsBack v)
    (level : Nat) {fuel : Nat} (hfuel : (write level v).length ≤ fuel) {tail : List Char}
    (htail : EndsNumber tail) :
    (∀ rest, skipSpace tail = '}' :: rest →
      readEntries? (fuel + 1) (stringText key ++ ':' :: ' ' :: write level v ++ tail) =
        some ([(key, v)], rest)) ∧
    ∀ more es rest, skipSpace tail = ',' :: more →
      readEntries? fuel (skipSpace more) = some (es, rest) →
      readEntries? (fuel + 1) (stringText key ++ ':' :: ' ' :: write level v ++ tail) =
        some ((key, v) :: es, rest) := by
  obtain ⟨body, hbody, hstring⟩ :=
    readString?_stringText key (':' :: ' ' :: (write level v ++ tail))
  obtain ⟨c, cs, heq, hspace, -⟩ := hplain.exists_cons_write level
  have hskip : skipSpace (' ' :: (write level v ++ tail)) = write level v ++ tail := by
    rw [skipSpace, List.dropWhile_cons_of_pos (by decide), heq]
    exact skipSpace_cons hspace _
  rw [List.append_assoc, List.cons_append, List.cons_append, hbody, readEntries?]
  simp only [hstring, skipSpace_cons (show isSpace ':' = false by decide), hskip,
    hread level fuel tail hfuel htail, String.ofList_toList]
  constructor
  · intro rest hlast
    simp only [hlast]
  · intro more es rest hcomma hmore
    simp only [hcomma, hmore, Option.map_some]

/-- An entry starts with a quote. -/
theorem exists_cons_entry (key : String) (v : Value) (level : Nat) :
    ∃ cs, stringText key ++ ':' :: ' ' :: write level v = '"' :: cs := ⟨_, rfl⟩

/-- The entries of a mapping are read back. -/
theorem readEntries?_blockBody {entries : List (String × Value)} (hne : entries ≠ [])
    (hplain : ∀ e ∈ entries, Plain e.2) (hread : ∀ e ∈ entries, ReadsBack e.2) (level outer : Nat)
    {fuel : Nat} (hfuel : (blockBody level (writeEntries level entries)).length < fuel)
    (rest : List Char) :
    readEntries? fuel
        (blockBody level (writeEntries level entries) ++ (newLine outer ++ '}' :: rest)) =
      some (entries, rest) := by
  induction entries generalizing fuel with
  | nil => exact absurd rfl hne
  | cons e es ih =>
    obtain ⟨key, v⟩ := e
    obtain ⟨fuel, rfl⟩ := Nat.exists_eq_add_one_of_ne_zero (Nat.ne_zero_of_lt hfuel)
    obtain ⟨hfirst, hread⟩ := List.forall_mem_cons.1 hread
    obtain ⟨hvalue, hplain⟩ := List.forall_mem_cons.1 hplain
    dsimp only at hfirst hvalue
    cases es with
    | nil =>
      rw [writeEntries, writeEntries, blockBody_singleton] at hfuel ⊢
      simp only [List.length_append, List.length_cons] at hfuel
      refine (readEntries?_entry key hvalue hfirst level (by omega)
        (endsNumber_newLine outer _)).1 rest ?_
      rw [skipSpace_newLine]
      exact skipSpace_cons (by decide) rest
    | cons e' es =>
      obtain ⟨key', v'⟩ := e'
      obtain ⟨cs, hentry⟩ := exists_cons_entry key' v' level
      obtain ⟨inside, hinside, hskip⟩ := skipSpace_blockBody (by decide) hentry level
        (writeEntries level es) (newLine outer ++ '}' :: rest)
      rw [← writeEntries] at hinside hskip
      rw [writeEntries, writeEntries, blockBody_cons_cons, ← writeEntries] at hfuel ⊢
      simp only [List.length_append, List.length_cons] at hfuel
      have hlength : (write level v).length ≤ fuel := by omega
      rw [List.append_assoc, List.cons_append]
      refine (readEntries?_entry key hvalue hfirst level hlength (endsNumber_comma _)).2 _ _ rest
        (skipSpace_cons (by decide) _) ?_
      rw [List.append_assoc, hskip, ← hinside]
      exact ih (List.cons_ne_nil _ es) hplain hread (by omega)

/-- A scalar is read where no string, list or mapping starts. -/
theorem readValue?_eq_readScalar? {c : Char} (hquote : c ≠ '"') (hlist : c ≠ '[') (hmap : c ≠ '{')
    (fuel : Nat) (cs : List Char) : readValue? (fuel + 1) (c :: cs) = readScalar? (c :: cs) := by
  rw [readValue?]
  · intro rest h
    exact hquote (List.cons.inj h).1
  · intro rest h
    exact hlist (List.cons.inj h).1
  · intro rest h
    exact hmap (List.cons.inj h).1

/-- A list with items is read up to its closing bracket. -/
theorem readValue?_list {c : Char} (hc : c ≠ ']') {fuel : Nat} {cs inside rest : List Char}
    {items : List Value} (hskip : skipSpace cs = c :: inside)
    (hitems : readItems? fuel (c :: inside) = some (items, rest)) :
    readValue? (fuel + 1) ('[' :: cs) = some (.list items, rest) := by
  rw [readValue?, hskip]
  split
  · next h => exact absurd (List.cons.inj h).1 hc
  · rw [hitems]
    rfl

/-- A mapping with entries is read up to its closing brace. -/
theorem readValue?_mapping {c : Char} (hc : c ≠ '}') {fuel : Nat} {cs inside rest : List Char}
    {entries : List (String × Value)} (hskip : skipSpace cs = c :: inside)
    (hentries : readEntries? fuel (c :: inside) = some (entries, rest)) :
    readValue? (fuel + 1) ('{' :: cs) = some (.mapping (Mapping.ofEntries entries), rest) := by
  rw [readValue?, hskip]
  split
  · next h => exact absurd (List.cons.inj h).1 hc
  · rw [hentries]
    rfl

/-- An integer is read back as a value. -/
theorem readValue?_intText {n : Int} (h : (natText n.natAbs).length ≤ maxIntDigits) (fuel : Nat)
    {rest : List Char} (hrest : EndsNumber rest) :
    readValue? (fuel + 1) (intText n ++ rest) = some (.int n, rest) := by
  rw [← readScalar?_intText h hrest]
  cases n with
  | ofNat n =>
    obtain ⟨c, cs, heq, hc⟩ := exists_cons_natText n
    rw [intText, heq]
    exact readValue?_eq_readScalar? (ne_of_isDigit hc rfl) (ne_of_isDigit hc rfl)
      (ne_of_isDigit hc rfl) fuel _
  | negSucc n => exact readValue?_eq_readScalar? (by decide) (by decide) (by decide) fuel _

/-- A string is read back as a value. -/
theorem readValue?_stringText (s : String) (fuel : Nat) (rest : List Char) :
    readValue? (fuel + 1) (stringText s ++ rest) = some (.text s, rest) := by
  obtain ⟨body, hbody, hstring⟩ := readString?_stringText s rest
  rw [hbody, readValue?]
  simp only [hstring, Option.map_some, String.ofList_toList]

/-- The text of a value is not empty, so there is fuel for it. -/
theorem Plain.readsBack_of_succ {v : Value} (h : Plain v)
    (hread : ∀ (level fuel : Nat) (rest : List Char), (write level v).length ≤ fuel + 1 →
      EndsNumber rest → readValue? (fuel + 1) (write level v ++ rest) = some (v, rest)) :
    ReadsBack v := by
  intro level fuel rest hfuel hrest
  cases fuel with
  | zero =>
    obtain ⟨c, cs, heq, -⟩ := h.exists_cons_write level
    rw [heq] at hfuel
    cases hfuel
  | succ fuel => exact hread level fuel rest hfuel hrest

/-- A list is read back if its items are. -/
theorem readValue?_write_list {items : List Value} (hplain : ∀ v ∈ items, Plain v)
    (hread : ∀ v ∈ items, ReadsBack v) {level fuel : Nat}
    (hfuel : (write level (.list items)).length ≤ fuel + 1) (rest : List Char) :
    readValue? (fuel + 1) (write level (.list items) ++ rest) = some (.list items, rest) := by
  cases items with
  | nil => rfl
  | cons v vs =>
    obtain ⟨c, cs, heq, hspace, hbracket⟩ :=
      (hplain v List.mem_cons_self).exists_cons_write (level + 1)
    obtain ⟨inside, hinside, hskip⟩ := skipSpace_blockBody hspace heq (level + 1)
      (writeItems (level + 1) vs) (newLine level ++ ']' :: rest)
    rw [write, writeItems] at hfuel ⊢
    have hbody := length_blockBody_lt '[' ']' level (write (level + 1) v)
      (writeItems (level + 1) vs)
    rw [block_append]
    refine readValue?_list hbracket hskip ?_
    rw [← hinside, ← writeItems]
    refine readItems?_blockBody (List.cons_ne_nil v vs) hplain hread (level + 1) level ?_ rest
    rw [writeItems]
    omega

/-- A mapping is read back if its values are. -/
theorem readValue?_write_mapping {entries : List (String × Value)}
    (hkeys : (entries.map (·.1)).Nodup) (hplain : ∀ e ∈ entries, Plain e.2)
    (hread : ∀ e ∈ entries, ReadsBack e.2) {level fuel : Nat}
    (hfuel : (write level (.mapping entries)).length ≤ fuel + 1) (rest : List Char) :
    readValue? (fuel + 1) (write level (.mapping entries) ++ rest) =
      some (.mapping entries, rest) := by
  cases entries with
  | nil => rfl
  | cons e es =>
    obtain ⟨key, v⟩ := e
    obtain ⟨cs, hentry⟩ := exists_cons_entry key v (level + 1)
    obtain ⟨inside, hinside, hskip⟩ := skipSpace_blockBody (by decide) hentry (level + 1)
      (writeEntries (level + 1) es) (newLine level ++ '}' :: rest)
    have hbody := length_blockBody_lt '{' '}' level
      (stringText key ++ ':' :: ' ' :: write (level + 1) v) (writeEntries (level + 1) es)
    rw [write, writeEntries] at hfuel ⊢
    rw [block_append, ← Mapping.ofEntries_eq_self hkeys]
    refine readValue?_mapping (by decide) hskip ?_
    rw [← hinside, ← writeEntries]
    refine readEntries?_blockBody (List.cons_ne_nil _ es) hplain hread (level + 1) level ?_ rest
    rw [writeEntries]
    omega

/-- **Plain values are read back.** -/
theorem Plain.readsBack {v : Value} (h : Plain v) : ReadsBack v := by
  induction h with
  | null => exact Plain.null.readsBack_of_succ fun level fuel rest _ _ => rfl
  | bool b =>
    refine (Plain.bool b).readsBack_of_succ fun level fuel rest _ _ => ?_
    cases b with
    | true => rfl
    | false => rfl
  | int h =>
    exact (Plain.int h).readsBack_of_succ fun level fuel rest _ hrest =>
      readValue?_intText h fuel hrest
  | text s =>
    exact (Plain.text s).readsBack_of_succ fun level fuel rest _ _ =>
      readValue?_stringText s fuel rest
  | list h ih =>
    exact (Plain.list h).readsBack_of_succ fun level fuel rest hfuel _ =>
      readValue?_write_list h ih hfuel rest
  | mapping hkeys h ih =>
    exact (Plain.mapping hkeys h).readsBack_of_succ fun level fuel rest hfuel _ =>
      readValue?_write_mapping hkeys h ih hfuel rest

/-- The text of a plain value, with a line break behind it, is read back as a whole. -/
theorem Plain.read?_render {v : Value} (h : Plain v) : read? (render v ++ ['\n']) = some v := by
  obtain ⟨c, cs, heq, hspace, -⟩ := h.exists_cons_write 0
  have hskip : skipSpace (render v ++ ['\n']) = render v ++ ['\n'] := by
    rw [render, heq]
    exact skipSpace_cons hspace _
  have hread : readValue? (2 * (render v ++ ['\n']).length + 2) (render v ++ ['\n']) =
      some (v, ['\n']) := by
    refine h.readsBack 0 _ ['\n'] ?_ (endsNumber_newLine 0 [])
    rw [render, List.length_append]
    omega
  rw [read?, hskip, hread]
  rfl

end Json

end ScriptLint
