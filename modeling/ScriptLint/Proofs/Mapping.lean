import Mathlib.Data.List.Basic
import ScriptLint.Value.Basic

/-!
# Mappings from lists of entries

Entries that are set one after the other leave a mapping behind: its keys are those of the entries,
each at its first place (`map_fst_ofEntries`), and a key has the last value that it is given
(`get?_ofEntries`). If no key is given two values, every entry is in the mapping (`mem_ofEntries`),
and if no key is given twice the entries are the mapping (`ofEntries_eq_self`). Items with keys of
their own stand in it once each, in the same order (`ofEntries_map`). Keys can be left out before or
after (`filter_ofEntries`).
-/

namespace ScriptLint

namespace Mapping

variable {α : Type}

/-- The keys of a mapping. -/
def keys (m : Mapping α) : List String := m.map (·.1)

/-- A new key goes behind the others. -/
theorem set_of_notMem {m : Mapping α} {key : String} (h : key ∉ m.keys) (value : α) :
    m.set key value = m ++ [(key, value)] := by
  induction m with
  | nil => rfl
  | cons e m ih =>
    obtain ⟨hne, hrest⟩ := not_or.1 (mt List.mem_cons.2 h)
    rw [set, if_neg (Ne.symm hne), ih hrest, List.cons_append]

/-- A new key comes last. -/
theorem keys_set_of_notMem {m : Mapping α} {key : String} (h : key ∉ m.keys) (value : α) :
    (m.set key value).keys = m.keys ++ [key] := by
  rw [set_of_notMem h, keys, List.map_append]
  rfl

/-- A key that is there keeps its place. -/
theorem keys_set_of_mem {m : Mapping α} {key : String} (h : key ∈ m.keys) (value : α) :
    (m.set key value).keys = m.keys := by
  induction m with
  | nil => cases h
  | cons e m ih =>
    rw [set]
    split
    · rfl
    · next hne =>
      rcases List.mem_cons.1 h with heq | hrest
      · exact absurd heq.symm hne
      · exact congrArg (e.1 :: ·) (ih hrest)

/-- The last value that is set is in the mapping. -/
theorem mem_set_self (m : Mapping α) (key : String) (value : α) :
    (key, value) ∈ m.set key value := by
  induction m with
  | nil => exact List.mem_singleton_self _
  | cons e m ih =>
    rw [set]
    split
    · next heq => exact heq ▸ List.mem_cons_self
    · exact List.mem_cons_of_mem _ ih

/-- Setting a key leaves the other entries alone. -/
theorem mem_set_of_ne {m : Mapping α} {key : String} {value : α} {e : String × α} (he : e ∈ m)
    (hne : e.1 ≠ key) : e ∈ m.set key value := by
  induction m with
  | nil => cases he
  | cons e' m ih =>
    rw [set]
    rcases List.mem_cons.1 he with rfl | he
    · rw [if_neg hne]
      exact List.mem_cons_self
    · split
      · exact List.mem_cons_of_mem _ he
      · exact List.mem_cons_of_mem _ (ih he)

/-- An entry is the one that was set, or an earlier one. -/
theorem eq_or_mem_of_mem_set {m : Mapping α} {key : String} {value : α} {e : String × α}
    (h : e ∈ m.set key value) : e = (key, value) ∨ e ∈ m := by
  induction m with
  | nil => exact .inl (List.mem_singleton.1 h)
  | cons e' m ih =>
    rw [set] at h
    split at h
    · next heq =>
      rcases List.mem_cons.1 h with rfl | h
      · exact .inl (by rw [heq])
      · exact .inr (List.mem_cons_of_mem _ h)
    · rcases List.mem_cons.1 h with rfl | h
      · exact .inr List.mem_cons_self
      · exact (ih h).imp_right (List.mem_cons_of_mem _)

/-- Entries are set from the first on. -/
theorem setAll_cons (m : Mapping α) (e : String × α) (entries : List (String × α)) :
    m.setAll (e :: entries) = (m.set e.1 e.2).setAll entries := rfl

/-- Entries with new and different keys go behind the others. -/
theorem setAll_eq_append {m : Mapping α} {entries : List (String × α)}
    (h : (keys (m ++ entries)).Nodup) : m.setAll entries = m ++ entries := by
  induction entries generalizing m with
  | nil => exact (List.append_nil m).symm
  | cons e entries ih =>
    have hsplit : m ++ e :: entries = m ++ [e] ++ entries := by simp
    have hnew : e.1 ∉ m.keys := by
      rw [keys, List.map_append, List.nodup_append] at h
      intro hmem
      exact h.2.2 _ hmem _ List.mem_cons_self rfl
    rw [setAll_cons, set_of_notMem hnew, hsplit]
    rw [hsplit] at h
    exact ih h

/-- Entries with different keys are a mapping as they are. -/
theorem ofEntries_eq_self {entries : List (String × α)} (h : (entries.map (·.1)).Nodup) :
    ofEntries entries = entries :=
  setAll_eq_append h

/-- Each new key gets a place at its first occurrence. -/
theorem keys_setAll (m : Mapping α) (entries : List (String × α)) :
    (m.setAll entries).keys =
      m.keys ++ ((entries.map (·.1)).filter (fun key => key ∉ m.keys)).eraseDups := by
  induction entries generalizing m with
  | nil => exact (List.append_nil _).symm
  | cons e entries ih =>
    rw [setAll_cons, ih, List.map_cons]
    by_cases hmem : e.1 ∈ m.keys
    · rw [keys_set_of_mem hmem, List.filter_cons_of_neg (by simpa using hmem)]
    · rw [List.filter_cons_of_pos (by simpa using hmem), List.eraseDups_cons, List.filter_filter,
        keys_set_of_notMem hmem, List.append_assoc, List.singleton_append]
      congr 3
      refine List.filter_congr ?_
      intro key _
      by_cases hold : key ∈ m.keys <;> by_cases hsame : key = e.1 <;> simp [hold, hsame]

/-- The keys of a mapping are those of its entries, each at its first place. -/
theorem map_fst_ofEntries (entries : List (String × α)) :
    (ofEntries entries).map (·.1) = (entries.map (·.1)).eraseDups := by
  have hkeys := keys_setAll ([] : Mapping α) entries
  simpa [keys, ofEntries] using hkeys

section
variable {β : Type} {key : β → String} (value : β → α)

/-- A key that gets the value it has leaves the mapping alone. -/
theorem set_map_of_mem {items : List β} {b : β} (hb : b ∈ items)
    (hkey : ∀ a ∈ items, key a = key b → a = b) :
    set (key b) (value b) (items.map fun a => (key a, value a)) =
      items.map fun a => (key a, value a) := by
  induction items with
  | nil => cases hb
  | cons a items ih =>
    obtain ⟨hfirst, hkey⟩ := List.forall_mem_cons.1 hkey
    rw [List.map_cons, set]
    split
    · next heq => rw [hfirst heq]
    · next hne =>
      rcases List.mem_cons.1 hb with rfl | hb
      · exact absurd rfl hne
      · rw [ih hb hkey]

/-- Entries with a key and a value of their own are kept once each, at their first places. -/
theorem setAll_map [DecidableEq β] {done items : List β}
    (hkey : ∀ a ∈ done ++ items, ∀ b ∈ items, key a = key b → a = b) :
    setAll (done.map fun a => (key a, value a)) (items.map fun a => (key a, value a)) =
      (done ++ (items.filter (fun b => b ∉ done)).eraseDups).map fun a => (key a, value a) := by
  induction items generalizing done with
  | nil => rw [List.filter_nil, List.eraseDups_nil, List.append_nil]; rfl
  | cons b items ih =>
    have hb : ∀ a ∈ done, key a = key b → a = b := fun a ha =>
      hkey a (List.mem_append_left _ ha) b List.mem_cons_self
    rw [List.map_cons, setAll_cons]
    by_cases hmem : b ∈ done
    · rw [set_map_of_mem value hmem hb, List.filter_cons_of_neg (by simpa using hmem)]
      refine ih fun a ha c hc => hkey a ?_ c (List.mem_cons_of_mem b hc)
      rw [List.mem_append, List.mem_cons]
      exact (List.mem_append.1 ha).imp_right .inr
    · have hnew : key b ∉ keys (done.map fun a => (key a, value a)) := by
        rw [keys, List.map_map, List.mem_map]
        rintro ⟨a, ha, heq⟩
        exact hmem (hb a ha heq ▸ ha)
      have hdone : set (key b) (value b) (done.map fun a => (key a, value a)) =
          (done ++ [b]).map fun a => (key a, value a) := by
        rw [set_of_notMem hnew, List.map_append]
        rfl
      have hsplit : done ++ b :: items = done ++ [b] ++ items := by simp
      rw [hdone, ih fun a ha c hc => hkey a (hsplit ▸ ha) c (List.mem_cons_of_mem b hc),
        List.filter_cons_of_pos (by simpa using hmem), List.eraseDups_cons, List.filter_filter,
        List.append_assoc, List.singleton_append]
      congr 4
      refine List.filter_congr ?_
      intro c _
      by_cases hold : c ∈ done <;> by_cases hsame : c = b <;> simp [hold, hsame]

/-- If every item has a key of its own, the mapping has each item once, at its first place. -/
theorem ofEntries_map [DecidableEq β] {items : List β}
    (hkey : ∀ a ∈ items, ∀ b ∈ items, key a = key b → a = b) :
    ofEntries (items.map fun a => (key a, value a)) =
      items.eraseDups.map fun a => (key a, value a) := by
  have hmap := @setAll_map α β key value _ [] items hkey
  simpa [ofEntries] using hmap

end

/-- No key is repeated, however many entries are set. -/
theorem nodup_keys_setAll {m : Mapping α} (h : m.keys.Nodup) (entries : List (String × α)) :
    (m.setAll entries).keys.Nodup := by
  induction entries generalizing m with
  | nil => exact h
  | cons e entries ih =>
    rw [setAll_cons]
    refine ih ?_
    by_cases hmem : e.1 ∈ m.keys
    · rwa [keys_set_of_mem hmem]
    · rw [keys_set_of_notMem hmem, List.nodup_append]
      refine ⟨h, List.pairwise_singleton _ _, ?_⟩
      intro key hkey other hother heq
      rw [List.mem_singleton] at hother
      exact hmem (hother ▸ heq ▸ hkey)

/-- No key has two places. -/
theorem nodup_map_fst_ofEntries (entries : List (String × α)) :
    ((ofEntries entries).map (·.1)).Nodup :=
  nodup_keys_setAll (m := []) List.nodup_nil entries

/-- An entry is kept if no entry that is set has its key and another value. -/
theorem mem_setAll {m : Mapping α} {entries : List (String × α)} {e : String × α}
    (h : e ∈ m ∨ e ∈ entries) (hsame : ∀ e' ∈ entries, e'.1 = e.1 → e' = e) :
    e ∈ m.setAll entries := by
  induction entries generalizing m with
  | nil => exact h.resolve_right List.not_mem_nil
  | cons e' entries ih =>
    obtain ⟨hfirst, hsame⟩ := List.forall_mem_cons.1 hsame
    rw [setAll_cons]
    refine ih ?_ hsame
    by_cases heq : e'.1 = e.1
    · rw [hfirst heq]
      exact .inl (mem_set_self m e.1 e.2)
    · rcases h with hm | hentries
      · exact .inl (mem_set_of_ne hm (Ne.symm heq))
      · rcases List.mem_cons.1 hentries with rfl | hrest
        · exact absurd rfl heq
        · exact .inr hrest

/-- An entry was there or was set. -/
theorem mem_or_mem_of_mem_setAll {m : Mapping α} {entries : List (String × α)} {e : String × α}
    (h : e ∈ m.setAll entries) : e ∈ m ∨ e ∈ entries := by
  induction entries generalizing m with
  | nil => exact .inl h
  | cons e' entries ih =>
    rcases ih (setAll_cons m e' entries ▸ h) with hset | hrest
    · rcases eq_or_mem_of_mem_set hset with rfl | hm
      · exact .inr List.mem_cons_self
      · exact .inl hm
    · exact .inr (List.mem_cons_of_mem _ hrest)

/-- A mapping holds nothing but its entries. -/
theorem mem_of_mem_ofEntries {entries : List (String × α)} {e : String × α}
    (h : e ∈ ofEntries entries) : e ∈ entries :=
  (mem_or_mem_of_mem_setAll h).resolve_left List.not_mem_nil

/-- An entry is in the mapping if its key has no other value. -/
theorem mem_ofEntries {entries : List (String × α)} {e : String × α} (h : e ∈ entries)
    (hsame : ∀ e' ∈ entries, e'.1 = e.1 → e' = e) : e ∈ ofEntries entries :=
  mem_setAll (.inr h) hsame

/-! ## Looking up keys -/

/-- A key is looked up from the first entry on. -/
theorem get?_cons (e : String × α) (m : Mapping α) (key : String) :
    get? (e :: m) key = if key = e.1 then some e.2 else m.get? key := by
  by_cases h : key = e.1
  · rw [if_pos h, get?, h, List.lookup_cons_self]
  · rw [if_neg h, get?, List.lookup_cons, beq_eq_false_iff_ne.2 h]
    rfl

/-- The value that is set is found, and other keys are left alone. -/
theorem get?_set (m : Mapping α) (key : String) (value : α) (key' : String) :
    (m.set key value).get? key' = if key' = key then some value else m.get? key' := by
  induction m with
  | nil => exact get?_cons _ _ _
  | cons e m ih =>
    rw [set]
    split
    · next heq =>
      rw [get?_cons, get?_cons, heq]
      split <;> rfl
    · next hne =>
      rw [get?_cons, get?_cons, ih]
      by_cases hkey : key' = e.1
      · rw [if_pos hkey, if_pos hkey, if_neg (hkey ▸ hne)]
      · rw [if_neg hkey, if_neg hkey]

/-- The last entry with a key counts, and the old value if there is none. -/
theorem get?_setAll (m : Mapping α) (entries : List (String × α)) (key : String) :
    (m.setAll entries).get? key =
      ((entries.filter (·.1 == key)).getLast?.map (·.2)).or (m.get? key) := by
  induction entries generalizing m with
  | nil => rfl
  | cons e entries ih =>
    rw [setAll_cons, ih, get?_set, List.filter_cons]
    by_cases hkey : e.1 = key
    · rw [if_pos hkey.symm, if_pos (beq_iff_eq.2 hkey), List.getLast?_cons]
      cases (entries.filter (·.1 == key)).getLast? <;> rfl
    · rw [if_neg (Ne.symm hkey), if_neg (mt beq_iff_eq.1 hkey)]

/-- A key has the last value that it is given. -/
theorem get?_ofEntries (entries : List (String × α)) (key : String) :
    (ofEntries entries).get? key = (entries.filter (·.1 == key)).getLast?.map (·.2) :=
  (get?_setAll [] entries key).trans Option.or_none

/-- An entry counts if no later one has its key. -/
theorem get?_ofEntries_append_cons {before after : List (String × α)} {e : String × α}
    (h : ∀ e' ∈ after, e'.1 ≠ e.1) : (ofEntries (before ++ e :: after)).get? e.1 = some e.2 := by
  have hafter : after.filter (·.1 == e.1) = [] := by
    rw [List.filter_eq_nil_iff]
    intro e' he'
    exact mt beq_iff_eq.1 (h e' he')
  rw [get?_ofEntries, List.filter_append, List.filter_cons, if_pos (beq_self_eq_true e.1), hafter,
    List.getLast?_concat]
  rfl

/-! ## The last entry -/

/-- The last entry has the key that comes up last, with the last value of this key. -/
theorem getLast?_ofEntries {before after : List (String × α)} {e : String × α}
    (hlast : ((before ++ e :: after).map (·.1)).eraseDups.getLast? = some e.1)
    (hafter : ∀ e' ∈ after, e'.1 ≠ e.1) : (ofEntries (before ++ e :: after)).getLast? = some e := by
  have hget : (ofEntries (before ++ e :: after)).get? e.1 = some e.2 :=
    get?_ofEntries_append_cons hafter
  have hnodup := nodup_map_fst_ofEntries (before ++ e :: after)
  rw [← map_fst_ofEntries] at hlast
  generalize ofEntries (before ++ e :: after) = m at hget hnodup hlast
  rw [List.getLast?_map, Option.map_eq_some_iff] at hlast
  obtain ⟨last, hlast, hkey⟩ := hlast
  obtain ⟨front, rfl⟩ := List.getLast?_eq_some_iff.1 hlast
  have hvalue : get? (front ++ [last]) last.1 = some last.2 := by
    rw [← ofEntries_eq_self hnodup]
    exact get?_ofEntries_append_cons (List.forall_mem_nil _)
  rw [hkey, hget] at hvalue
  rw [hlast, Prod.ext hkey (Option.some.inj hvalue).symm]

/-- Equal keys are one key. -/
theorem eraseDups_eq_singleton {keys : List String} {key : String} (hmem : key ∈ keys)
    (h : ∀ other ∈ keys, other = key) : keys.eraseDups = [key] := by
  obtain ⟨first, rest, rfl⟩ := List.exists_cons_of_ne_nil (List.ne_nil_of_mem hmem)
  obtain ⟨rfl, hrest⟩ := List.forall_mem_cons.1 h
  have hnone : rest.filter (fun other => !other == first) = [] := by
    rw [List.filter_eq_nil_iff]
    intro other hother
    simp [hrest other hother]
  rw [List.eraseDups_cons, hnone]
  rfl

/-- If all entries have one key, then the last one is left. -/
theorem getLast?_ofEntries_of_one_key {before : List (String × α)} {last : String × α}
    (h : ∀ earlier ∈ before, earlier.1 = last.1) :
    (ofEntries (before ++ [last])).getLast? = some last := by
  have hkeys : ((before ++ [last]).map (·.1)).eraseDups = [last.1] := by
    refine eraseDups_eq_singleton (by simp) ?_
    rw [List.forall_mem_map]
    exact List.forall_mem_append.2 ⟨h, List.forall_mem_singleton.2 rfl⟩
  exact getLast?_ofEntries (by rw [hkeys]; rfl) (List.forall_mem_nil _)

/-- Of entries with two keys, the last one is left last that has not the key of the first one. -/
theorem getLast?_ofEntries_of_two_keys {first entry : String × α}
    {middle after : List (String × α)} (hne : entry.1 ≠ first.1)
    (hafter : ∀ later ∈ after, later.1 = first.1)
    (htwo : ∀ other ∈ first :: middle ++ entry :: after, other.1 = first.1 ∨ other.1 = entry.1) :
    (ofEntries (first :: middle ++ entry :: after)).getLast? = some entry := by
  have hbehind : (((middle ++ entry :: after).map (·.1)).filter (!· == first.1)).eraseDups =
      [entry.1] := by
    refine eraseDups_eq_singleton (by simp [hne]) ?_
    intro key hkey
    obtain ⟨hmem, hother⟩ := List.mem_filter.1 hkey
    obtain ⟨other, hentry, rfl⟩ := List.mem_map.1 hmem
    exact (htwo other (List.mem_cons_of_mem _ hentry)).resolve_left (by simpa using hother)
  have hkeys : ((first :: middle ++ entry :: after).map (·.1)).eraseDups = [first.1, entry.1] := by
    rw [List.cons_append, List.map_cons, List.eraseDups_cons, hbehind]
  refine getLast?_ofEntries (by rw [hkeys]; rfl) ?_
  intro later hlater
  rw [hafter later hlater]
  exact Ne.symm hne

/-! ## Leaving keys out -/

section
variable (keep : String → Bool)

/-- A key that is kept has its value as before. -/
theorem get?_filter (m : Mapping α) (key : String) :
    get? (m.filter (keep ·.1)) key = if keep key then m.get? key else none := by
  induction m with
  | nil => exact (ite_self none).symm
  | cons e m ih =>
    rw [List.filter_cons, get?_cons]
    by_cases hkey : key = e.1
    · subst hkey
      rw [if_pos rfl]
      split
      · rw [get?_cons, if_pos rfl]
      · next hkeep => rw [ih, if_neg hkeep]
    · rw [if_neg hkey, ← ih]
      split
      · rw [get?_cons, if_neg hkey]
      · rfl

/-- Entries may be set before or after some keys are left out. -/
theorem filter_set (m : Mapping α) (key : String) (value : α) :
    (m.set key value).filter (keep ·.1) =
      if keep key then set key value (m.filter (keep ·.1)) else m.filter (keep ·.1) := by
  induction m with
  | nil => exact List.filter_cons
  | cons e m ih =>
    rw [set]
    by_cases hkey : e.1 = key
    · subst hkey
      rw [if_pos rfl, List.filter_cons, List.filter_cons]
      split
      · rw [set, if_pos rfl]
      · rfl
    · rw [if_neg hkey, List.filter_cons, List.filter_cons, ih]
      cases keep e.1 with
      | false => rfl
      | true =>
        cases keep key with
        | false => rfl
        | true => exact (if_neg hkey).symm

/-- A list of entries may be set before or after some keys are left out. -/
theorem filter_setAll (m : Mapping α) (entries : List (String × α)) :
    (m.setAll entries).filter (keep ·.1) =
      setAll (m.filter (keep ·.1)) (entries.filter (keep ·.1)) := by
  induction entries generalizing m with
  | nil => rfl
  | cons e entries ih =>
    rw [setAll_cons, ih, filter_set, List.filter_cons]
    split <;> rfl

/-- Keys can be left out of the entries or of their mapping. -/
theorem filter_ofEntries (entries : List (String × α)) :
    (ofEntries entries).filter (keep ·.1) = ofEntries (entries.filter (keep ·.1)) :=
  filter_setAll keep [] entries

end

end Mapping

end ScriptLint
