import Mathlib.Data.List.Nodup
import ScriptLint.Proofs.Mapping
import ScriptLint.Registry.Catalogue
import ScriptLint.Registry.Draft

/-!
# Lookups in registries

A registry looks names up without regard to case through an index with one place for each name in
lower case (`get?_eq_folded`), so of functions whose names differ only in case the last one answers
(`get?_eq_some_iff`). `last_variant_answers` says when this is the function that was asked for, and
`variant_shadows_function` that it may be another one.

A registry that is derived from another is built anew from the functions that are kept. Since a
function is kept for its name in lower case, its variants stay or go together: the new index is a
part of the old one (`folded_derive`), and every lookup answers as before or not at all
(`derived_registries_filter`).
-/

namespace ScriptLint

namespace Registry

/-! ## Building registries -/

/-- A registry is known by its functions. -/
theorem eq_of_functions_eq {r r' : Registry} (h : r.functions = r'.functions) : r = r' := by
  cases r
  cases r'
  cases h
  rfl

/-- A function with a new name is added behind the others. -/
theorem add_of_notMem {r : Registry} {f : Signature} (h : f.name ∉ r.names) :
    ∃ r', r.add f = .ok r' ∧ r'.functions = r.functions ++ [f] := by
  have hinsert : f.name ∉ r.functions.map (·.name) := h
  rw [add, insert?, dif_neg hinsert]
  exact ⟨_, rfl, rfl⟩

/-- Adds functions one by one. -/
def addFunctions (r : Registry) : List Signature → Except RegistryError Registry
  | [] => .ok r
  | f :: fs =>
    match r.add f with
    | .error e => .error e
    | .ok r' => r'.addFunctions fs

/-- The registry of these functions alone. -/
def ofFunctions (functions : List Signature) : Except RegistryError Registry :=
  empty.addFunctions functions

/-- Functions can be added if their registry exists. -/
theorem addFunctions_eq_ok {r r' : Registry} {fs : List Signature}
    (h : r'.functions = r.functions ++ fs) : r.addFunctions fs = .ok r' := by
  induction fs generalizing r with
  | nil =>
    rw [List.append_nil] at h
    exact congrArg Except.ok (eq_of_functions_eq h.symm)
  | cons f fs ih =>
    have hnew : f.name ∉ r.names := by
      have hnodup := r'.distinct
      rw [h, List.map_append, List.nodup_append] at hnodup
      intro hmem
      exact hnodup.2.2 _ hmem _ List.mem_cons_self rfl
    obtain ⟨r₁, hadd, hfunctions⟩ := add_of_notMem hnew
    rw [addFunctions, hadd]
    exact ih (by rw [h, hfunctions, List.append_assoc, List.singleton_append])

/-- A registry can be built again from its functions. -/
theorem ofFunctions_functions (r : Registry) : ofFunctions r.functions = .ok r :=
  addFunctions_eq_ok rfl

/-! ## The index by lower case -/

/-- The functions by their names in lower case. -/
def folded (r : Registry) : Mapping Signature :=
  Mapping.ofEntries (r.functions.map fun f => (lowercase f.name, f))

/-- A function is looked up by its name in small letters. -/
theorem get?_eq_folded (r : Registry) (name : String) :
    r.get? name = r.folded.get? (lowercase name) := by
  rw [folded, Mapping.get?_ofEntries, List.filter_map, List.getLast?_map, Option.map_map]
  exact (Option.map_id_apply).symm

/-- A registry has a name if it finds a function by it. -/
theorem isSome_get? (r : Registry) (name : String) : (r.get? name).isSome = r.hasName name := by
  rw [get?, hasName, Bool.eq_iff_iff, List.getLast?_isSome, ne_eq, List.filter_eq_nil_iff,
    List.any_eq_true]
  simp

/-- The last function answers whose name agrees up to case. -/
theorem get?_eq_some_iff {r : Registry} {name : String} {f : Signature} :
    r.get? name = some f ↔
      ∃ before after, r.functions = before ++ f :: after ∧ lowercase f.name = lowercase name ∧
        ∀ g ∈ after, lowercase g.name ≠ lowercase name := by
  rw [get?, List.getLast?_filter, List.find?_eq_some_iff_append]
  simp only [List.reverse_eq_append_iff, List.reverse_cons, List.append_assoc, sameName, beq_iff_eq,
    Bool.not_eq_true', beq_eq_false_iff_ne]
  constructor
  · rintro ⟨hf, after, before, hfunctions, hafter⟩
    exact ⟨before.reverse, after.reverse, hfunctions, hf, by simpa using hafter⟩
  · rintro ⟨before, after, hfunctions, hf, hafter⟩
    exact ⟨hf, after.reverse, before.reverse, by simpa using hfunctions, by simpa using hafter⟩

/-- Names that agree up to case have the same answer. -/
theorem get?_congr (r : Registry) {name name' : String} (h : lowercase name = lowercase name') :
    r.get? name = r.get? name' := by
  rw [get?_eq_folded, get?_eq_folded, h]

/-- A registry has the exact spelling of the name of each of its functions. -/
theorem hasExact_iff {r : Registry} {name : String} :
    r.hasExact name = true ↔ ∃ f ∈ r.functions, f.name = name := by
  rw [hasExact, List.contains_iff_mem, names, List.mem_map]

/-- Every function is found by its own name exactly if no names differ only in case. -/
theorem forall_get?_name_iff (r : Registry) :
    (∀ f ∈ r.functions, r.get? f.name = some f) ↔ (r.names.map lowercase).Nodup := by
  rw [names, List.map_map]
  constructor
  · intro h
    refine List.Nodup.map_on ?_ r.distinct.of_map
    intro f hf g hg hsame
    have hanswer : some f = some g := by
      rw [← h f hf, ← h g hg]
      exact r.get?_congr hsame
    exact Option.some.inj hanswer
  · intro h f hf
    obtain ⟨before, after, hfunctions⟩ := List.append_of_mem hf
    refine get?_eq_some_iff.2 ⟨before, after, hfunctions, rfl, ?_⟩
    intro g hg hsame
    rw [hfunctions, List.map_append, List.map_cons, List.nodup_append, List.nodup_cons] at h
    exact h.2.1.1 (List.mem_map.2 ⟨g, hg, hsame⟩)

/-- A function is found by its own name exactly if none of its variants stands behind it. -/
theorem get?_name_iff {r : Registry} {before after : List Signature} {f : Signature}
    (h : r.functions = before ++ f :: after) :
    r.get? f.name = some f ↔ ∀ g ∈ after, lowercase g.name ≠ lowercase f.name := by
  constructor
  · intro hget
    obtain ⟨before', after', hfunctions, -, hafter⟩ := get?_eq_some_iff.1 hget
    have honce := r.distinct.of_map
    rw [h, List.nodup_append, List.nodup_cons] at honce
    have hbefore : f ∉ before := fun hmem => honce.2.2 f hmem f List.mem_cons_self rfl
    obtain ⟨-, -, rfl⟩ :=
      (List.append_cons_inj_of_notMem hbefore honce.2.1.1).1 (h.symm.trans hfunctions)
    exact hafter
  · intro hafter
    exact get?_eq_some_iff.2 ⟨before, after, h, rfl, hafter⟩

/-- Every exact name finds its own function if and only if every function is found by its name. -/
theorem forall_hasExact_iff (r : Registry) :
    (∀ name, r.hasExact name = true → ∃ f, r.get? name = some f ∧ f.name = name) ↔
      ∀ f ∈ r.functions, r.get? f.name = some f := by
  constructor
  · intro h f hf
    obtain ⟨g, hget, hname⟩ := h f.name (hasExact_iff.2 ⟨f, hf, rfl⟩)
    obtain ⟨before, after, hfunctions, -⟩ := get?_eq_some_iff.1 hget
    have hg : g ∈ r.functions := by
      rw [hfunctions]
      exact List.mem_append_right _ List.mem_cons_self
    rw [hget, List.inj_on_of_nodup_map r.distinct hg hf hname]
  · intro h name hexact
    obtain ⟨f, hf, rfl⟩ := hasExact_iff.1 hexact
    exact ⟨f, h f hf, rfl⟩

/-- **The last variant answers.** A name that a registry has exactly is always found, and the answer
is the last function whose name agrees with it up to case. So a function answers to its own name
exactly if no variant of the name stands behind it, and all do exactly if no two names differ only
in case. -/
theorem last_variant_answers (r : Registry) :
    (∀ name, r.hasExact name = true →
      ∃ before f after, r.functions = before ++ f :: after ∧ r.get? name = some f ∧
        lowercase f.name = lowercase name ∧ ∀ g ∈ after, lowercase g.name ≠ lowercase name) ∧
    (∀ before f after, r.functions = before ++ f :: after →
      (r.get? f.name = some f ↔ ∀ g ∈ after, lowercase g.name ≠ lowercase f.name)) ∧
    ((∀ name, r.hasExact name = true → ∃ f, r.get? name = some f ∧ f.name = name) ↔
      (r.names.map lowercase).Nodup) ∧
    ((∀ f ∈ r.functions, r.get? f.name = some f) ↔ (r.names.map lowercase).Nodup) := by
  refine ⟨?_, fun before f after h => get?_name_iff h,
    (forall_hasExact_iff r).trans (forall_get?_name_iff r), forall_get?_name_iff r⟩
  intro name hexact
  have hfound : (r.get? name).isSome = true := by
    obtain ⟨f, hf, rfl⟩ := hasExact_iff.1 hexact
    rw [isSome_get?, hasName, List.any_eq_true]
    exact ⟨f, hf, beq_self_eq_true _⟩
  obtain ⟨f, hget⟩ := Option.isSome_iff_exists.1 hfound
  obtain ⟨before, after, hfunctions, hname, hafter⟩ := get?_eq_some_iff.1 hget
  exact ⟨before, f, after, hfunctions, hget, hname, hafter⟩

/-- The names of the built-in functions differ beyond case, so each of them answers to its own
name. -/
theorem last_variant_answers_builtIn :
    (builtIn.names.map lowercase).Nodup ∧
      ∀ f ∈ builtIn.functions, builtIn.get? f.name = some f := by
  have hnodup : (builtIn.names.map lowercase).Nodup := by decide +kernel
  exact ⟨hnodup, (last_variant_answers builtIn).2.2.2.2 hnodup⟩

/-- Behind a variant of its name, a function that the registry has is never found. -/
theorem variant_shadows_function :
    ∃ r, ofDrafts [{ name := "Sum" }, { name := "SUM" }] = .ok r ∧ r.hasExact "Sum" = true ∧
      (r.get? "Sum").map (·.name) = some "SUM" :=
  ⟨_, rfl, rfl, rfl⟩

/-! ## Derived registries -/

/-- A way to derive a registry from another: the listed functions are kept, or the others. -/
inductive Step where
  | restrictTo (listed : List String)
  | without (listed : List String)
deriving Repr, DecidableEq

/-- Whether a step keeps the functions with a name in lower case. -/
def Step.passes : Step → String → Bool
  | .restrictTo listed, lower => (listed.map lowercase).contains lower
  | .without listed, lower => !(listed.map lowercase).contains lower

/-- Whether all steps of a chain keep the functions with a name in lower case. -/
def passesAll (steps : List Step) (lower : String) : Bool := steps.all (·.passes lower)

/-- The registry behind a chain of steps. -/
def derive (r : Registry) : List Step → Registry
  | [] => r
  | .restrictTo listed :: steps => (r.restrictTo listed).derive steps
  | .without listed :: steps => (r.without listed).derive steps

/-- A chain of steps in which each builds a registry anew from the functions that are kept. -/
def rebuild (r : Registry) : List Step → Except RegistryError Registry
  | [] => .ok r
  | step :: steps =>
    match ofFunctions (r.functions.filter fun f => step.passes (lowercase f.name)) with
    | .error e => .error e
    | .ok r' => r'.rebuild steps

/-- Listed names are compared in small letters. -/
theorem contains_map_lowercase (listed : List String) (name : String) :
    (listed.map lowercase).contains (lowercase name) = isListed listed name := by
  rw [isListed, List.contains_eq_any_beq, List.any_map]
  refine congrArg (listed.any ·) (funext fun other => ?_)
  exact Bool.beq_comm

/-- A registry that is restricted keeps the functions that are listed. -/
theorem functions_restrictTo (r : Registry) (listed : List String) :
    (r.restrictTo listed).functions =
      r.functions.filter fun f => (Step.restrictTo listed).passes (lowercase f.name) :=
  List.filter_congr fun f _ => (contains_map_lowercase listed f.name).symm

/-- A registry keeps the functions that are not left out. -/
theorem functions_without (r : Registry) (listed : List String) :
    (r.without listed).functions =
      r.functions.filter fun f => (Step.without listed).passes (lowercase f.name) :=
  List.filter_congr fun f _ => congrArg (!·) (contains_map_lowercase listed f.name).symm

/-- No step of a chain fails. -/
theorem rebuild_eq_ok (r : Registry) (steps : List Step) :
    r.rebuild steps = .ok (r.derive steps) := by
  induction steps generalizing r with
  | nil => rfl
  | cons step steps ih =>
    cases step with
    | restrictTo listed =>
      rw [rebuild, ← functions_restrictTo, ofFunctions_functions]
      exact ih _
    | without listed =>
      rw [rebuild, ← functions_without, ofFunctions_functions]
      exact ih _

/-- A derived registry keeps the functions that pass all steps. -/
theorem functions_derive (r : Registry) (steps : List Step) :
    (r.derive steps).functions = r.functions.filter fun f =>
      passesAll steps (lowercase f.name) := by
  induction steps generalizing r with
  | nil => exact (List.filter_eq_self.2 fun _ _ => rfl).symm
  | cons step steps ih =>
    have hcons (lower : String) :
        passesAll (step :: steps) lower = (passesAll steps lower && step.passes lower) := by
      rw [passesAll, List.all_cons, Bool.and_comm]
      rfl
    simp only [hcons, ← List.filter_filter]
    cases step with
    | restrictTo listed => rw [derive, ih, functions_restrictTo]
    | without listed => rw [derive, ih, functions_without]

/-- The index of a derived registry is a part of the index before. -/
theorem folded_derive (r : Registry) (steps : List Step) :
    (r.derive steps).folded = r.folded.filter (passesAll steps ·.1) := by
  rw [folded, folded, Mapping.filter_ofEntries, List.filter_map, functions_derive]
  rfl

/-- A derived registry finds the same function by a name that passes all steps, and none by
others. -/
theorem get?_derive (r : Registry) (steps : List Step) (name : String) :
    (r.derive steps).get? name =
      if passesAll steps (lowercase name) then r.get? name else none := by
  rw [get?_eq_folded, get?_eq_folded, folded_derive, Mapping.get?_filter]

/-- A derived registry has the names that pass all steps. -/
theorem hasName_derive (r : Registry) (steps : List Step) (name : String) :
    (r.derive steps).hasName name = (passesAll steps (lowercase name) && r.hasName name) := by
  rw [← isSome_get?, ← isSome_get?, get?_derive]
  cases passesAll steps (lowercase name) <;> rfl

/-- A derived registry has the exact names that pass all steps. -/
theorem hasExact_derive (r : Registry) (steps : List Step) (name : String) :
    (r.derive steps).hasExact name = (passesAll steps (lowercase name) && r.hasExact name) := by
  rw [Bool.eq_iff_iff, Bool.and_eq_true, hasExact_iff, hasExact_iff, functions_derive]
  simp only [List.mem_filter]
  constructor
  · rintro ⟨f, ⟨hf, hpasses⟩, rfl⟩
    exact ⟨hpasses, f, hf, rfl⟩
  · rintro ⟨hpasses, f, hf, rfl⟩
    exact ⟨f, ⟨hf, hpasses⟩, rfl⟩

/-- The order of the steps does not matter. -/
theorem derive_perm {steps steps' : List Step} (h : steps.Perm steps') (r : Registry) :
    r.derive steps = r.derive steps' := by
  refine eq_of_functions_eq ?_
  rw [functions_derive, functions_derive]
  refine List.filter_congr fun f _ => ?_
  exact h.all_eq

/-- **Derived registries are filters.** A chain of steps never fails, and what it leaves of a
registry are the functions whose names in lower case pass every step, in their order. Lookups answer
for these names as before and for no others, whichever way they find a name. One list of names
splits a registry in two, and the order of the steps does not matter. -/
theorem derived_registries_filter (r : Registry) (steps : List Step) :
    r.rebuild steps = .ok (r.derive steps) ∧
    (r.derive steps).functions = r.functions.filter (fun f => passesAll steps (lowercase f.name)) ∧
    (∀ name, (r.derive steps).hasName name =
      (passesAll steps (lowercase name) && r.hasName name)) ∧
    (∀ name, (r.derive steps).get? name =
      if passesAll steps (lowercase name) then r.get? name else none) ∧
    (∀ name, (r.derive steps).hasExact name =
      (passesAll steps (lowercase name) && r.hasExact name)) ∧
    (∀ listed, ((r.restrictTo listed).functions ++ (r.without listed).functions).Perm r.functions ∧
      (r.restrictTo listed).functions.Disjoint (r.without listed).functions) ∧
    ∀ steps', steps.Perm steps' → r.derive steps' = r.derive steps := by
  refine ⟨rebuild_eq_ok r steps, functions_derive r steps, hasName_derive r steps,
    get?_derive r steps, hasExact_derive r steps, ?_, fun steps' h => (derive_perm h r).symm⟩
  intro listed
  refine ⟨List.filter_append_perm _ _, ?_⟩
  intro f hkept hleft
  have hlisted := (List.mem_filter.1 hkept).2
  have hunlisted := (List.mem_filter.1 hleft).2
  rw [hlisted] at hunlisted
  cases hunlisted

/-- Two variants of a name stay together, in either order of the steps, and the last of them
answers. -/
theorem derived_registries_filter_of_variants :
    ∃ r, ofDrafts [{ name := "Sum" }, { name := "Max" }, { name := "SUM" }] = .ok r ∧
      [Step.restrictTo ["sum", "max"], .without ["MAX"]].Perm
        [.without ["MAX"], .restrictTo ["sum", "max"]] ∧
      r.derive [.without ["MAX"], .restrictTo ["sum", "max"]] =
        r.derive [.restrictTo ["sum", "max"], .without ["MAX"]] ∧
      (r.derive [.restrictTo ["sum", "max"], .without ["MAX"]]).names = ["Sum", "SUM"] ∧
      (r.derive [.restrictTo ["sum", "max"], .without ["MAX"]]).get? "Sum" = r.get? "Sum" := by
  have hperm : [Step.restrictTo ["sum", "max"], .without ["MAX"]].Perm
      [.without ["MAX"], .restrictTo ["sum", "max"]] := .swap _ _ _
  refine ⟨_, rfl, hperm, ?_, rfl, ?_⟩
  · exact (derived_registries_filter _ _).2.2.2.2.2.2 _ hperm
  · exact (derived_registries_filter _ _).2.2.2.1 "Sum"

end Registry

end ScriptLint
