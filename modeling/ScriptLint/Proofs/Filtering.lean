import Mathlib.Data.List.Basic
import ScriptLint.Analysis.Session
import ScriptLint.Proofs.Nesting
import ScriptLint.Proofs.Usage

/-!
# Options and registries filter

Two things of an analysis can be chosen beside the script: whether calls of unknown functions are
noted, and which functions are known. Both reach the findings only where a call or a name is found.
Turning the notes off, or knowing more functions, therefore leaves out some findings and changes
nothing else: not the nesting of blocks, not the symbols, not the order.

Either change is described by the findings that are kept, all errors among them. If the notes about
calls are filtered on every line, so are the findings of the check (`Structure.check_eq_filter`),
and likewise for undefined names (`Usage.validate_eq_filter`). `options_and_registry_filter` states
what follows for the diagnostics.
-/

namespace ScriptLint

/-! ## Issues that a registry settles -/

/-- The issues that go away when the functions of `registry'` are known and not only those of
`registry`: a call of a function that only `registry'` has by exactly its name, and a name that only
`registry'` has up to case. -/
def Issue.settledBy (registry registry' : Registry) : Issue → Bool
  | .hostFunction name => registry'.hasExact name && !registry.hasExact name
  | .undefinedVariable name => registry'.hasName name && !registry.hasName name
  | _ => false

/-- Errors are neither about calls nor about names. -/
theorem Issue.severity_eq_error_iff {issue : Issue} :
    issue.severity = .error ↔ issue.kind ≠ .hostFunction ∧ issue.kind ≠ .undefinedVariable := by
  cases issue <;> simp [Issue.severity, Issue.kind]

/-- Calls of functions that the host provides are mere information. -/
theorem Issue.severity_of_kind_hostFunction {issue : Issue} (h : issue.kind = .hostFunction) :
    issue.severity = .information := by
  cases issue with
  | hostFunction name => rfl
  | _ => cases h

/-- No registry settles an error. -/
theorem Issue.settledBy_of_error {registry registry' : Registry} {issue : Issue}
    (h : issue.severity = .error) : issue.settledBy registry registry' = false := by
  cases issue with
  | hostFunction name => cases h
  | undefinedVariable name => cases h
  | _ => rfl

namespace Registry

variable {registry registry' : Registry} (hnames : registry.names ⊆ registry'.names) {name : String}
include hnames

/-- More names, more exact matches. -/
theorem hasExact_mono (h : registry.hasExact name = true) : registry'.hasExact name = true := by
  rw [hasExact, List.contains_iff_mem] at h ⊢
  exact hnames h

/-- More names, more matches up to case. -/
theorem hasName_mono (h : registry.hasName name = true) : registry'.hasName name = true := by
  obtain ⟨f, hf, hsame⟩ := List.any_eq_true.1 h
  obtain ⟨f', hf', heq⟩ := List.mem_map.1 (hnames (List.mem_map.2 ⟨f, hf, rfl⟩))
  refine List.any_eq_true.2 ⟨f', hf', ?_⟩
  rw [heq]
  exact hsame

end Registry

/-! ## The check -/

namespace Structure

section

variable {keep : Finding → Bool}
  (herrors : ∀ f : Finding, f.issue.severity = .error → keep f = true)
include herrors

/-- Findings of a kind that is an error are kept. -/
theorem filter_keep_eq_self {found : List Finding} {kind : IssueKind}
    (hkind : ∀ f ∈ found, f.issue.kind = kind)
    (hne : kind ≠ .hostFunction ∧ kind ≠ .undefinedVariable) :
    found.filter keep = found := by
  refine List.filter_eq_self.2 ?_
  intro f hf
  refine herrors _ (Issue.severity_eq_error_iff.2 ?_)
  rw [hkind f hf]
  exact hne

variable {registry registry' : Registry} {notes notes' : Bool}
  (hcalls : ∀ i masked, (if notes' then callFindings registry' i masked else []) =
    (if notes then callFindings registry i masked else []).filter keep)
include hcalls

/-- If the notes about calls on a line are filtered, so are its findings. -/
theorem lineFindings_eq_filter (i : Nat) (step : Nesting.Step) (line : Line) :
    lineFindings registry' notes' i step line =
      (lineFindings registry notes i step line).filter keep := by
  unfold lineFindings
  split
  · rfl
  · dsimp only
    simp only [List.filter_append]
    rw [filter_keep_eq_self herrors (fun f hf => (kind_of_mem_quoteFindings hf).2) (by decide),
      filter_keep_eq_self herrors (fun f hf => (kind_of_mem_endFindings hf).2) (by decide),
      filter_keep_eq_self herrors (fun f hf => (kind_of_mem_loopFindings hf).2) (by decide),
      filter_keep_eq_self herrors (fun f hf => (kind_of_mem_typeFindings hf).2) (by decide),
      hcalls]

/-- If the notes about calls are filtered on every line, so are the findings of the check. -/
theorem checkFrom_eq_filter (i : Nat) (nesting : Nesting) (lines : List Line) :
    checkFrom registry' notes' i nesting lines =
      (checkFrom registry notes i nesting lines).filter keep := by
  induction lines generalizing i nesting with
  | nil =>
    have hkind (f : Finding) (hf : f ∈ openFindings nesting) := kind_of_mem_openFindings hf
    exact (filter_keep_eq_self herrors hkind (by decide)).symm
  | cons line lines ih =>
    rw [checkFrom, checkFrom, List.filter_append, lineFindings_eq_filter herrors hcalls, ih]

/-- The checks by lines find a part of what they found with the other settings. -/
theorem check_eq_filter (lines : List Line) :
    check registry' notes' lines =
      (check registry notes lines).filter keep :=
  checkFrom_eq_filter herrors hcalls 0 {} lines

end

variable {registry registry' : Registry} (hnames : registry.names ⊆ registry'.names)
include hnames

/-- The host has to provide what it had to before, unless that is settled. -/
theorem isHostFunction_eq (name : String) :
    isHostFunction registry' name =
      (isHostFunction registry name &&
        !(Issue.hostFunction name).settledBy registry registry') := by
  have hmono : registry.hasExact name = true → registry'.hasExact name = true :=
    Registry.hasExact_mono hnames
  unfold isHostFunction Issue.settledBy
  cases hold : registry.hasExact name with
  | true => simp [hmono hold]
  | false => simp [hold]

/-- With more functions known, the notes about calls are those that are not settled. -/
theorem callFindings_eq_filter (i : Nat) (masked : MaskedLine) :
    callFindings registry' i masked =
      (callFindings registry i masked).filter (fun f => !f.issue.settledBy registry registry') := by
  rw [callFindings, callFindings, List.filter_filterMap]
  refine List.filterMap_congr ?_
  intro call _
  dsimp only
  rw [isHostFunction_eq hnames]
  cases isHostFunction registry (String.ofList call.value) with
  | false => rfl
  | true => rfl

end Structure

/-! ## Undefined names -/

namespace Usage

section

variable {keep : Finding → Bool} {registry registry' : Registry}
  (hnames : ∀ declared i masked, maskedFindings registry' declared i masked =
    (maskedFindings registry declared i masked).filter keep)
include hnames

/-- If the undefined names of masked lines are filtered, so are those of a script. -/
theorem validateFrom_eq_filter (declared : List String) (i : Nat) (lines : List Line) :
    validateFrom registry' declared i lines =
      (validateFrom registry declared i lines).filter keep := by
  induction lines generalizing i with
  | nil => rfl
  | cons line lines ih =>
    have hline : lineFindings registry' declared i line =
        (lineFindings registry declared i line).filter keep := by
      unfold lineFindings
      split
      · rfl
      · exact hnames declared i _
    rw [validateFrom, validateFrom, List.filter_append, hline, ih]

/-- The undefined names are a part of those with the other registry. -/
theorem validate_eq_filter (symbols : List Symbol) (lines : List Line) :
    validate registry' symbols lines =
      (validate registry symbols lines).filter keep :=
  validateFrom_eq_filter hnames _ 0 lines

end

variable {registry registry' : Registry} (hnames : registry.names ⊆ registry'.names)
include hnames

/-- A name is reserved if it was before, or if it is settled. -/
theorem isReserved_eq (name : String) :
    isReserved registry' name = (isReserved registry name ||
      (Issue.undefinedVariable name).settledBy registry registry') := by
  have hmono : registry.hasName name = true → registry'.hasName name = true :=
    Registry.hasName_mono hnames
  unfold isReserved Issue.settledBy
  cases hold : registry.hasName name with
  | true => simp [hmono hold]
  | false => simp [hold]

/-- With more functions known, the undefined names are those that are not settled. -/
theorem maskedFindings_eq_filter (declared : List String) (i : Nat) (masked : MaskedLine) :
    maskedFindings registry' declared i masked =
      (maskedFindings registry declared i masked).filter
        (fun f => !f.issue.settledBy registry registry') := by
  rw [maskedFindings, maskedFindings, List.filter_filterMap]
  refine List.filterMap_congr ?_
  intro mention _
  dsimp only
  rw [isReserved_eq hnames, Bool.or_right_comm]
  cases isReserved registry (String.ofList mention.name) ||
      declared.contains (String.ofList mention.name) with
  | true => rfl
  | false =>
    cases hsettled : (Issue.undefinedVariable (String.ofList mention.name)).settledBy registry
        registry' with
    | true => simp [Option.filter, hsettled]
    | false => simp [Option.filter, hsettled]

end Usage

/-! ## Diagnostics -/

/-- Without notes, the findings are those that are no information. -/
theorem findings_eq_filter_severity (registry : Registry) (lines : List Line) :
    findings registry ⟨false⟩ lines =
      (findings registry ⟨true⟩ lines).filter (fun f => f.issue.severity ≠ .information) := by
  have herrors : ∀ f : Finding, f.issue.severity = .error →
      decide (f.issue.severity ≠ .information) = true := by
    intro f h
    rw [h]
    rfl
  have hcalls : ∀ i masked,
      (if false then Structure.callFindings registry i masked else []) =
        (if true then Structure.callFindings registry i masked else []).filter
          (fun f => f.issue.severity ≠ .information) := by
    intro i masked
    refine (List.filter_eq_nil_iff.2 ?_).symm
    intro f hf
    have hkind := (Structure.kind_of_mem_callFindings hf).2
    rw [Issue.severity_of_kind_hostFunction hkind]
    decide
  have hvalidate : ∀ f ∈ Usage.validate registry (Symbols.extract lines) lines,
      decide (f.issue.severity ≠ .information) = true := by
    intro f hf
    obtain ⟨-, -, -, -, -, -, rfl⟩ := Usage.mem_validate.1 hf
    rfl
  rw [findings, findings, List.filter_append, List.filter_eq_self.2 hvalidate]
  exact congrArg (· ++ _) (Structure.check_eq_filter herrors hcalls lines)

/-- With more functions known, the findings are those that are not settled. -/
theorem findings_eq_filter_settledBy {registry registry' : Registry}
    (hnames : registry.names ⊆ registry'.names) (options : Options) (lines : List Line) :
    findings registry' options lines =
      (findings registry options lines).filter
        (fun f => !f.issue.settledBy registry registry') := by
  have herrors : ∀ f : Finding, f.issue.severity = .error →
      (!f.issue.settledBy registry registry') = true := by
    intro f h
    rw [Issue.settledBy_of_error h]
    rfl
  have hcalls : ∀ i masked,
      (if options.warnOnHostFunctions then Structure.callFindings registry' i masked else []) =
        List.filter (fun f => !f.issue.settledBy registry registry')
          (if options.warnOnHostFunctions then Structure.callFindings registry i masked
            else []) := by
    intro i masked
    split
    · exact Structure.callFindings_eq_filter hnames i masked
    · rfl
  rw [findings, findings, List.filter_append, Structure.check_eq_filter herrors hcalls,
    Usage.validate_eq_filter (Usage.maskedFindings_eq_filter hnames)]

/-- A diagnostic that filtering makes rarer reports a finding that is left out. -/
theorem exists_of_count_filter_lt {found : List Finding} {keep : Finding → Bool} {d : Diagnostic}
    (h : ((found.filter keep).map (·.toDiagnostic)).count d <
      (found.map (·.toDiagnostic)).count d) :
    ∃ f ∈ found, f.toDiagnostic = d ∧ keep f = false := by
  by_contra hnone
  refine absurd h (Nat.not_lt.2 (Nat.le_of_eq ?_))
  rw [List.count_eq_countP, List.count_eq_countP, List.countP_map, List.countP_map,
    List.countP_filter]
  refine List.countP_congr ?_
  intro f hf
  cases hkeep : keep f with
  | true => simp
  | false =>
    have hne : f.toDiagnostic ≠ d := fun heq => hnone ⟨f, hf, heq, hkeep⟩
    simp [hne]

/-- **Options and registries only filter.** Without notes about calls, a script has the same
diagnostics but for those that are information. If `registry'` has all the functions of `registry`
by name, a script has the same findings under it but for those it settles. So its diagnostics are a
part of those under `registry`, in the same order, with the same errors; what is lost is a note
about a call of a function that only `registry'` has by exactly its name, or a warning about a name
that only `registry'` has up to case. The symbols are the same. -/
theorem options_and_registry_filter (lines : List Line) :
    (∀ registry : Registry, analyze registry ⟨false⟩ lines =
      (analyze registry ⟨true⟩ lines).filter (·.severity ≠ .information)) ∧
    ∀ registry registry' : Registry, registry.names ⊆ registry'.names → ∀ options : Options,
      findings registry' options lines = (findings registry options lines).filter
        (fun f => !f.issue.settledBy registry registry') ∧
      (analyze registry' options lines).Sublist (analyze registry options lines) ∧
      (analyze registry' options lines).filter (·.severity = .error) =
        (analyze registry options lines).filter (·.severity = .error) ∧
      (∀ d, (analyze registry' options lines).count d < (analyze registry options lines).count d →
        ∃ f : Finding, f.toDiagnostic = d ∧ f.issue.settledBy registry registry' = true) ∧
      ∀ s : Session, { s with registry := registry', lines }.analyze.symbols =
        { s with registry, lines }.analyze.symbols := by
  refine ⟨?_, ?_⟩
  · intro registry
    rw [analyze, analyze, List.filter_map, findings_eq_filter_severity]
    rfl
  · intro registry registry' hnames options
    have hfilter := findings_eq_filter_settledBy hnames options lines
    refine ⟨hfilter, ?_, ?_, ?_, fun s => rfl⟩
    · rw [analyze, hfilter]
      exact List.filter_sublist.map _
    · rw [analyze, analyze, hfilter, List.filter_map, List.filter_map, List.filter_filter]
      congr 1
      refine List.filter_congr ?_
      intro f _
      cases herror : decide (f.toDiagnostic.severity = .error) with
      | false => simp [herror]
      | true => simp [herror, Issue.settledBy_of_error (of_decide_eq_true herror)]
    · intro d hlost
      rw [analyze, analyze, hfilter] at hlost
      obtain ⟨f, -, hd, hsettled⟩ := exists_of_count_filter_lt hlost
      exact ⟨f, hd, by simpa using hsettled⟩

/-- The standard library settles the call and the name in a line that are both unknown without it;
the name has another case there. -/
theorem options_and_registry_filter_with_library :
    Registry.empty.names ⊆ Registry.builtIn.names ∧
    findings .empty ⟨true⟩ ["Upper(lower) + Foo(x)".toList] =
      [⟨0, 0, 5, .hostFunction "Upper"⟩, ⟨0, 15, 18, .hostFunction "Foo"⟩,
        ⟨0, 6, 11, .undefinedVariable "lower"⟩, ⟨0, 19, 20, .undefinedVariable "x"⟩] ∧
    findings .builtIn ⟨true⟩ ["Upper(lower) + Foo(x)".toList] =
      [⟨0, 15, 18, .hostFunction "Foo"⟩, ⟨0, 19, 20, .undefinedVariable "x"⟩] := by
  have hnames : Registry.empty.names ⊆ Registry.builtIn.names := List.nil_subset _
  have hempty : findings .empty ⟨true⟩ ["Upper(lower) + Foo(x)".toList] =
      [⟨0, 0, 5, .hostFunction "Upper"⟩, ⟨0, 15, 18, .hostFunction "Foo"⟩,
        ⟨0, 6, 11, .undefinedVariable "lower"⟩, ⟨0, 19, 20, .undefinedVariable "x"⟩] := by
    decide +kernel
  have hfilter := ((options_and_registry_filter ["Upper(lower) + Foo(x)".toList]).2 .empty .builtIn
    hnames ⟨true⟩).1
  rw [hempty] at hfilter
  exact ⟨hnames, hempty, hfilter.trans (by decide +kernel)⟩

end ScriptLint
