import ScriptLint.Options.Layers

/-!
# Settings in one row

The options of a script come from three layers, each with two names for the option, values of any
kind and a failure that can stop it anywhere. None of this structure matters: the layers are one row
of entries (`applyLayers_eq`), entries with other keys can be left out (`apply_filter_isKey`), and
of those that are left the first that cannot be read is reported and otherwise the last one counts
(`apply_eq`). `resolve_eq_last_entry` says so for the option of a script, with `StandsFor` for what
a value means.
-/

namespace ScriptLint

/-! ## Values -/

/-- The truth value that a value stands for. -/
inductive StandsFor : Value → Bool → Prop where
  | bool (b : Bool) : StandsFor (.bool b) b
  | zero : StandsFor (.int 0) false
  | one : StandsFor (.int 1) true
  | trueWord {s : String}
      (h : lowercase (String.ofList (trim s.toList)) ∈ ["true", "yes", "on", "1"]) :
      StandsFor (.text s) true
  | falseWord {s : String}
      (h : lowercase (String.ofList (trim s.toList)) ∈ ["false", "no", "off", "0"]) :
      StandsFor (.text s) false

/-- A value that stands for a truth value. -/
def IsReadable (v : Value) : Prop := ∃ b, StandsFor v b

/-- No word is both true and false. -/
theorem notMem_trueWords {word : String} (h : word ∈ falseWords) : word ∉ trueWords := by
  simp only [falseWords, List.mem_cons, List.not_mem_nil, or_false] at h
  rcases h with rfl | rfl | rfl | rfl <;> decide

/-- A word is read as the truth value that it stands for. -/
theorem readBoolWord?_eq_some_iff {s : String} {b : Bool} :
    readBoolWord? s = some b ↔ StandsFor (.text s) b := by
  simp only [readBoolWord?, List.contains_iff_mem]
  constructor
  · intro h
    split at h
    · rename_i htrue
      cases h
      exact .trueWord htrue
    · split at h
      · rename_i hfalse
        cases h
        exact .falseWord hfalse
      · cases h
  · intro h
    cases h with
    | trueWord htrue => exact if_pos htrue
    | falseWord hfalse => exact (if_neg (notMem_trueWords hfalse)).trans (if_pos hfalse)

/-- A value is read as the truth value that it stands for. -/
theorem readBool?_eq_some_iff {v : Value} {b : Bool} : readBool? v = some b ↔ StandsFor v b := by
  cases v with
  | text s =>
    rw [readBool?]
    exact readBoolWord?_eq_some_iff
  | int n =>
    rw [readBool?]
    constructor
    · intro h
      split at h
      · subst n
        cases h
        exact .zero
      · split at h
        · subst n
          cases h
          exact .one
        · cases h
    · intro h
      cases h <;> rfl
  | bool a =>
    constructor
    · intro h
      cases h
      exact .bool _
    · intro h
      cases h
      rfl
  | null | real | list | mapping =>
    constructor
    · intro h
      cases h
    · intro h
      cases h

/-- A value cannot be read if it stands for no truth value. -/
theorem readBool?_isNone_iff {v : Value} : (readBool? v).isNone = true ↔ ¬ IsReadable v := by
  rw [Option.isNone_iff_eq_none, Option.eq_none_iff_forall_ne_some, IsReadable, not_exists]
  simp only [ne_eq, readBool?_eq_some_iff]

/-! ## Rows of entries -/

namespace Options

/-- Later settings are taken over on top of earlier ones. -/
theorem apply_append (o : Options) (entries later : List (String × Value)) :
    o.apply (entries ++ later) =
      match o.apply entries with
      | .ok o' => o'.apply later
      | .error e => .error e := by
  induction entries generalizing o with
  | nil => rfl
  | cons entry entries ih =>
    rw [List.cons_append, apply, apply]
    cases o.set entry.1 entry.2 with
    | error e => rfl
    | ok o' => exact ih o'

/-- Layers are one row of entries. -/
theorem applyLayers_eq (o : Options) (layers : List Layer) :
    applyLayers o layers = o.apply (layers.flatMap (·.settings)) := by
  induction layers generalizing o with
  | nil => rfl
  | cons layer layers ih =>
    rw [applyLayers, List.flatMap_cons, apply_append]
    cases o.apply layer.settings with
    | error e => rfl
    | ok o' => exact ih o'

/-- Entries with other keys can be left out. -/
theorem apply_filter_isKey (o : Options) (entries : List (String × Value)) :
    o.apply (entries.filter (isKey ·.1)) = o.apply entries := by
  induction entries generalizing o with
  | nil => rfl
  | cons entry entries ih =>
    rw [List.filter_cons]
    split
    · rw [apply, apply]
      cases o.set entry.1 entry.2 with
      | error e => rfl
      | ok o' => exact ih o'
    · rename_i hkey
      rw [ih, apply, set, if_neg hkey]

/-- Of entries that all name the option, the first that cannot be read is reported, and otherwise
the last one counts. -/
theorem apply_eq {entries : List (String × Value)} (h : ∀ entry ∈ entries, isKey entry.1 = true)
    (o : Options) :
    o.apply entries =
      match entries.find? (fun entry => (readBool? entry.2).isNone) with
      | some (key, value) => .error ⟨key, value⟩
      | none => .ok ⟨(entries.getLast?.bind (readBool? ·.2)).getD o.warnOnHostFunctions⟩ := by
  induction entries generalizing o with
  | nil => rfl
  | cons entry entries ih =>
    obtain ⟨hkey, hrest⟩ := List.forall_mem_cons.1 h
    rw [apply, set, if_pos hkey, List.find?_cons]
    cases hvalue : readBool? entry.2 with
    | none => rfl
    | some b =>
      show apply ⟨b⟩ entries = _
      rw [ih hrest]
      cases entries with
      | nil => simp [hvalue]
      | cons next entries =>
        rw [List.getLast?_cons_cons]
        cases hfind : (next :: entries).find? (fun entry => (readBool? entry.2).isNone) with
        | some bad => rfl
        | none =>
          -- The last entry can be read, so the options before do not matter.
          obtain ⟨last, hlast⟩ : ∃ last, (next :: entries).getLast? = some last :=
            ⟨_, List.getLast?_eq_some_getLast (List.cons_ne_nil next entries)⟩
          have hread := List.find?_eq_none.1 hfind last (List.mem_of_getLast? hlast)
          obtain ⟨value, hlastValue⟩ : ∃ value, readBool? last.2 = some value := by
            rwa [Option.isNone_iff_eq_none, ← ne_eq, Option.ne_none_iff_exists'] at hread
          simp [hlast, hlastValue]

section
variable {entries : List (String × Value)} (h : ∀ entry ∈ entries, isKey entry.1 = true)
include h

/-- Settings fail with the first value that cannot be read. -/
theorem apply_eq_error_iff {o : Options} {e : SettingError} :
    o.apply entries = .error e ↔
      ∃ before after, entries = before ++ (e.key, e.value) :: after ∧
        (∀ entry ∈ before, IsReadable entry.2) ∧ ¬ IsReadable e.value := by
  obtain ⟨key, value⟩ := e
  have hfind : o.apply entries = .error ⟨key, value⟩ ↔
      entries.find? (fun entry => (readBool? entry.2).isNone) = some (key, value) := by
    rw [apply_eq h]
    cases entries.find? (fun entry => (readBool? entry.2).isNone) with
    | none => simp
    | some bad => simp [Prod.ext_iff]
  rw [hfind, List.find?_eq_some_iff_append]
  simp only [Bool.not_eq_true', ← Bool.not_eq_true, readBool?_isNone_iff, Classical.not_not]
  constructor
  · rintro ⟨hbad, before, after, hentries, hbefore⟩
    exact ⟨before, after, hentries, hbefore, hbad⟩
  · rintro ⟨before, after, hentries, hbefore, hbad⟩
    exact ⟨hbad, before, after, hentries, hbefore⟩

/-- Settings are taken over if all values can be read, and the last one counts. -/
theorem apply_eq_ok_iff {o o' : Options} :
    o.apply entries = .ok o' ↔
      (∀ entry ∈ entries, IsReadable entry.2) ∧
        (entries = [] ∧ o' = o ∨
          ∃ entry, entries.getLast? = some entry ∧ StandsFor entry.2 o'.warnOnHostFunctions) := by
  have hreadable : (∀ entry ∈ entries, IsReadable entry.2) ↔
      entries.find? (fun entry => (readBool? entry.2).isNone) = none := by
    rw [List.find?_eq_none]
    simp only [readBool?_isNone_iff, Classical.not_not]
  rw [hreadable, apply_eq h, ← List.getLast?_eq_none_iff]
  cases hfind : entries.find? (fun entry => (readBool? entry.2).isNone) with
  | some bad => simp
  | none =>
    cases hlast : entries.getLast? with
    | none =>
      show Except.ok o = Except.ok o' ↔ _
      simp [eq_comm]
    | some last =>
      obtain ⟨b, hb⟩ := hreadable.2 hfind last (List.mem_of_getLast? hlast)
      have hread : readBool? last.2 = some b := readBool?_eq_some_iff.2 hb
      constructor
      · intro hok
        simp only [Option.bind_some, hread, Option.getD_some, Except.ok.injEq] at hok
        exact ⟨rfl, .inr ⟨last, rfl, hok ▸ hb⟩⟩
      · rintro ⟨-, ⟨hnil, -⟩ | ⟨entry, hentry, hvalue⟩⟩
        · cases hnil
        · cases hentry
          rw [Option.bind_some, readBool?_eq_some_iff.2 hvalue]
          rfl

end

/-! ## The option of a script -/

/-- The entries that can set the option of a script, lowest layer first: the environment variable,
if it is set, the directives, and the overrides that are given. -/
def entries (text : List Char) (overrides environment : Mapping Value) : List (String × Value) :=
  let fromEnvironment := (environment.get? "JYROLINT_WARN_ON_HOST_FUNCTIONS").filter (!·.isNull)
  let all := fromEnvironment.toList.map ("warn_on_host_functions", ·) ++ Directive.flags text ++
    overrides.filter (!·.2.isNull)
  all.filter fun entry => entry.1 = "warnOnHostFunctions" ∨ entry.1 = "warn_on_host_functions"

/-- All entries have one of the names of the option. -/
theorem isKey_of_mem_entries (text : List Char) (overrides environment : Mapping Value) :
    ∀ entry ∈ entries text overrides environment, isKey entry.1 = true := by
  intro entry hentry
  rw [isKey, Bool.or_eq_true, beq_iff_eq, beq_iff_eq, or_comm]
  exact of_decide_eq_true (List.mem_filter.1 hentry).2

/-- The environment gives one setting at most. -/
theorem ofEnvironment_eq (environment : Mapping Value) :
    ofEnvironment environment =
      ((environment.get? "JYROLINT_WARN_ON_HOST_FUNCTIONS").filter (!·.isNull)).toList.map
        ("warn_on_host_functions", ·) := by
  rw [ofEnvironment, environmentKey]
  cases environment.get? "JYROLINT_WARN_ON_HOST_FUNCTIONS" with
  | none => rfl
  | some value =>
    cases hnull : value.isNull with
    | true => simp [Option.filter, hnull]
    | false => simp [Option.filter, hnull, warnKey]

/-- The layers of a script, in one row and without other keys, are its entries. -/
theorem resolve_eq_apply (text : List Char) (overrides environment : Mapping Value) :
    resolve text overrides environment = apply {} (entries text overrides environment) := by
  have hrow : (layers text overrides environment).flatMap (·.settings) =
      ofEnvironment environment ++ Directive.flags text ++ givenOverrides overrides := by
    simp [layers]
  rw [resolve, applyLayers_eq, hrow, ← apply_filter_isKey, ofEnvironment_eq, entries]
  congr 1
  refine List.filter_congr ?_
  intro entry _
  rw [isKey, Bool.eq_iff_iff, decide_eq_true_iff, Bool.or_eq_true, beq_iff_eq, beq_iff_eq, or_comm]
  rfl

/-- **One row of settings.** The option of a script is what comes out of taking over the entries of
all layers in one row, without those for other keys. It fails exactly if one of their values cannot
be read; the message then names the key and the value of the first such entry, whatever comes behind
it. Otherwise the last entry counts, and without entries the option is on. -/
theorem resolve_eq_last_entry (text : List Char) (overrides environment : Mapping Value) :
    resolve text overrides environment = apply {} (entries text overrides environment) ∧
    ((∃ e, resolve text overrides environment = .error e) ↔
      ∃ entry ∈ entries text overrides environment, ¬ IsReadable entry.2) ∧
    (∀ e : SettingError, resolve text overrides environment = .error e ↔
      e.message = "option " ++ showQuoted e.key ++ " expects a boolean, got " ++ e.value.shown ∧
        ∃ before after, entries text overrides environment = before ++ (e.key, e.value) :: after ∧
          (∀ entry ∈ before, IsReadable entry.2) ∧ ¬ IsReadable e.value) ∧
    ∀ o : Options, resolve text overrides environment = .ok o ↔
      (∀ entry ∈ entries text overrides environment, IsReadable entry.2) ∧
        (entries text overrides environment = [] ∧ o.warnOnHostFunctions = true ∨
          ∃ entry, (entries text overrides environment).getLast? = some entry ∧
            StandsFor entry.2 o.warnOnHostFunctions) := by
  have hkeys := isKey_of_mem_entries text overrides environment
  rw [resolve_eq_apply]
  refine ⟨rfl, ?_, ?_, ?_⟩
  · constructor
    · rintro ⟨e, he⟩
      obtain ⟨before, after, hentries, -, hbad⟩ := (apply_eq_error_iff hkeys).1 he
      exact ⟨(e.key, e.value), by simp [hentries], hbad⟩
    · rintro ⟨entry, hentry, hbad⟩
      cases happly : apply {} (entries text overrides environment) with
      | error e => exact ⟨e, rfl⟩
      | ok o => exact absurd (((apply_eq_ok_iff hkeys).1 happly).1 entry hentry) hbad
  · intro e
    rw [apply_eq_error_iff hkeys]
    exact (and_iff_right rfl).symm
  · intro o
    have hdefault : o = {} ↔ o.warnOnHostFunctions = true := by
      cases o
      simp
    rw [apply_eq_ok_iff hkeys, hdefault]

/-- A variable that is set to nothing cannot be read, although an override stands behind it. -/
example : resolve "# @jyro: maxProblems=10".toList [("warnOnHostFunctions", .bool false)]
    [("JYROLINT_WARN_ON_HOST_FUNCTIONS", .text "")] =
      .error ⟨"warn_on_host_functions", .text ""⟩ := by
  rfl

end Options

end ScriptLint
