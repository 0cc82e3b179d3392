import Mathlib.Data.List.FinRange
import Mathlib.Data.List.GetD
import ScriptLint.Proofs.Insertion
import ScriptLint.Proofs.Position

/-!
# The order of declarations

A name may be used before the line that declares it, so the order of the lines should not matter for
the undefined names. But the table of symbols depends on it: a path belongs to the first line that
writes to it. Paths have a dot, which no mentioned name has, so the symbols of paths can be left out
(`Usage.validate_filter_isProperty`). The names of the other symbols are those that the lines
declare one by one (`Symbols.mem_map_name_extractFrom`), in whatever order they come.
`declaration_order_irrelevant` puts this together: reordering the lines reorders what is found.
-/

namespace ScriptLint

/-! ## Symbols of paths -/

/-- A dotted path has a dot. -/
theorem IsDottedPath.dot_mem {path : List Char} (h : IsDottedPath path) : '.' ∈ path := by
  obtain ⟨names, hlen, -, rfl⟩ := h
  match names with
  | [] | [_] => simp at hlen
  | name :: next :: names =>
    rw [intercalate_dot_cons]
    simp

/-- A symbol of a path that is written to. The role alone does not tell: a variable may be declared
with a type of that name. -/
def Symbol.isProperty (s : Symbol) : Bool :=
  s.name.toList.contains '.' && s.type == some Symbols.propertyRole

/-- A symbol named by a word is not that of a path. -/
theorem Symbol.isProperty_of_isWord {s : Symbol} (h : IsWord s.name.toList) :
    s.isProperty = false := by
  have hdot : s.name.toList.contains '.' = false := by
    simpa using h.notMem (by decide : isWordChar '.' = false)
  rw [isProperty, hdot, Bool.false_and]

namespace Symbols

/-- The symbol of a write is that of a path. -/
theorem isProperty_toSymbol {m : MaskedLine} {w : Write} (h : w ∈ writes m) (i : Nat) :
    (w.toSymbol i).isProperty = true := by
  obtain ⟨found, hfound, rfl⟩ := List.mem_map.1 h
  obtain ⟨hpath, -⟩ := Rule.captured_of_mem_scan hfound fun _ _ h => Rules.propertyWrite_eq_some h
  simp [Symbol.isProperty, Write.toSymbol, hpath.dot_mem]

/-- A declared variable or loop variable is no path. -/
theorem isProperty_of_mem_declared {i : Nat} {m : MaskedLine} {s : Symbol}
    (h : s ∈ declarations i m ++ iterators i m) : s.isProperty = false := by
  refine Symbol.isProperty_of_isWord ?_
  rcases List.mem_append.1 h with hs | hs
  · obtain ⟨found, hfound, rfl⟩ := List.mem_map.1 hs
    rw [String.toList_ofList]
    exact (Rule.captured_of_mem_scan hfound fun _ _ h => Rules.declaration_eq_some h).1
  · obtain ⟨found, hfound, rfl⟩ := List.mem_map.1 hs
    rw [String.toList_ofList]
    exact (Rule.captured_of_mem_scan hfound fun _ _ h => Rules.loopBinding_eq_some h).1

/-- The symbols of a masked line that are no paths are its declared variables and loop variables. -/
theorem mem_filter_isProperty_ofMasked {i : Nat} {seen : List String} {m : MaskedLine}
    {s : Symbol} :
    s ∈ (ofMasked i seen m).filter (!·.isProperty) ↔ s ∈ declarations i m ++ iterators i m := by
  rw [List.mem_filter, ofMasked, (byColumn_perm _).mem_iff, Bool.not_eq_true']
  constructor
  · intro h
    obtain ⟨hs, hproperty⟩ := h
    rcases List.mem_append.1 hs with hs | hs
    · exact hs
    · obtain ⟨w, hw, rfl⟩ := List.mem_map.1 hs
      rw [isProperty_toSymbol ((firstWrites_sublist _ _).subset hw)] at hproperty
      cases hproperty
  · intro hs
    exact ⟨List.mem_append_left _ hs, isProperty_of_mem_declared hs⟩

/-- The names that a line declares, for variables and loop variables. -/
def namesOf (line : Line) : List String :=
  match masked? line with
  | none => []
  | some masked => (declarations 0 masked ++ iterators 0 masked).map (·.name)

/-- Neither its number nor the paths written to before it change what a line declares. -/
theorem mem_map_name_ofLine {i : Nat} {seen : List String} {line : Line} {name : String} :
    name ∈ ((ofLine i seen line).filter (!·.isProperty)).map (·.name) ↔ name ∈ namesOf line := by
  rw [ofLine, namesOf]
  cases masked? line with
  | none => rfl
  | some masked =>
    have hnames : (declarations i masked ++ iterators i masked).map (·.name) =
        (declarations 0 masked ++ iterators 0 masked).map (·.name) := by
      rw [List.map_append, List.map_append, declarations, declarations, iterators, iterators,
        List.map_map, List.map_map, List.map_map, List.map_map]
      rfl
    show name ∈ ((ofMasked i seen masked).filter _).map _ ↔
      name ∈ (declarations 0 masked ++ iterators 0 masked).map (·.name)
    rw [← hnames, List.mem_map, List.mem_map]
    simp only [mem_filter_isProperty_ofMasked]

/-- The declared names from a line on are those that the lines declare, one by one. -/
theorem mem_map_name_extractFrom {i : Nat} {seen : List String} {lines : List Line}
    {name : String} :
    name ∈ ((extractFrom i seen lines).filter (!·.isProperty)).map (·.name) ↔
      ∃ line ∈ lines, name ∈ namesOf line := by
  induction lines generalizing i seen with
  | nil => simp [extractFrom]
  | cons line lines ih =>
    rw [extractFrom_cons, List.filter_append, List.map_append, List.mem_append,
      mem_map_name_ofLine, ih]
    simp only [List.mem_cons, exists_eq_or_imp]

end Symbols

/-! ## Undefined names and the table of symbols -/

namespace Usage

section
variable (registry : Registry)

/-- Only words are looked up among the declared names. -/
theorem lineFindings_congr {declared declared' : List String}
    (h : ∀ word, IsWord word → (String.ofList word ∈ declared' ↔ String.ofList word ∈ declared))
    (i : Nat) (line : Line) :
    lineFindings registry declared' i line = lineFindings registry declared i line := by
  rw [lineFindings, lineFindings]
  cases Symbols.masked? line with
  | none => rfl
  | some masked =>
    refine List.filterMap_congr ?_
    intro mention hmention
    obtain ⟨_, _, -, -, hvar⟩ := mem_mentions.1 hmention
    have hlookup : declared'.contains (String.ofList mention.name) =
        declared.contains (String.ofList mention.name) := by
      rw [Bool.eq_iff_iff, List.contains_iff_mem, List.contains_iff_mem]
      exact h _ hvar.isName.1
    dsimp only
    rw [hlookup]

/-- Tables of symbols that name the same words have the same undefined names. -/
theorem validate_congr {symbols symbols' : List Symbol}
    (h : ∀ word, IsWord word →
      (String.ofList word ∈ symbols'.map (·.name) ↔ String.ofList word ∈ symbols.map (·.name)))
    (lines : List Line) :
    validate registry symbols' lines = validate registry symbols lines := by
  have hdeclared : ∀ word, IsWord word →
      (String.ofList word ∈ declaredNames symbols' ↔
        String.ofList word ∈ declaredNames symbols) := by
    intro word hword
    rw [declaredNames, declaredNames, List.mem_append, List.mem_append, h word hword]
  rw [validate_eq, validate_eq]
  simp only [lineFindings_congr registry hdeclared]

/-- Symbols of paths do not matter for the undefined names. -/
theorem validate_filter_isProperty (symbols : List Symbol) (lines : List Line) :
    validate registry (symbols.filter (!·.isProperty)) lines = validate registry symbols lines := by
  refine validate_congr registry ?_ lines
  intro word hword
  constructor
  · intro h
    exact ((List.filter_sublist (l := symbols)).map _).subset h
  · intro h
    obtain ⟨s, hs, hname⟩ := List.mem_map.1 h
    have hkeep : s.isProperty = false := by
      refine Symbol.isProperty_of_isWord ?_
      rwa [hname, String.toList_ofList]
    exact List.mem_map.2 ⟨s, List.mem_filter.2 ⟨hs, by rw [hkeep]; rfl⟩, hname⟩

/-- Scripts with the same lines declare the same names, so the tables of both leave the same names
undefined. -/
theorem validate_extract_of_perm {lines lines' : List Line} (h : lines'.Perm lines)
    (script : List Line) :
    validate registry (Symbols.extract lines') script =
      validate registry (Symbols.extract lines) script := by
  rw [← validate_filter_isProperty, ← validate_filter_isProperty registry (Symbols.extract lines)]
  refine validate_congr registry ?_ script
  intro word _
  rw [Symbols.extract, Symbols.extract, Symbols.mem_map_name_extractFrom,
    Symbols.mem_map_name_extractFrom]
  simp only [h.mem_iff]

/-- The undefined names of a script on one of its lines. -/
theorem filter_line_validate (symbols : List Symbol) (lines : List Line) (i : Nat) :
    (validate registry symbols lines).filter (·.line = i) =
      lineFindings registry (declaredNames symbols) i (lines.getD i []) := by
  have hline : ∀ j line, ∀ f ∈ lineFindings registry (declaredNames symbols) j line,
      f.line = 0 + j := by
    intro j line f hf
    obtain ⟨column, name, -, rfl⟩ := mem_lineFindings.1 hf
    exact (Nat.zero_add j).symm
  rw [validate_eq]
  have hfilter := filter_flatten_mapIdx hline (fun _ => rfl) i (fun _ => true) lines
  rw [List.filter_true] at hfilter
  rw [← hfilter]
  refine List.filter_congr ?_
  intro f _
  rw [Nat.zero_add, Bool.and_true]
  rfl

end

end Usage

/-! ## Reordered scripts -/

/-- The lines of a script in another order: line `i` is the former line `order i`. -/
def reorder (lines : List Line) (order : Equiv.Perm (Fin lines.length)) : List Line :=
  List.ofFn fun i => lines.get (order i)

/-- Lines in another order are the same lines. -/
theorem reorder_perm (lines : List Line) (order : Equiv.Perm (Fin lines.length)) :
    (reorder lines order).Perm lines := by
  have h := order.ofFn_comp_perm lines.get
  rwa [List.ofFn_get] at h

/-- **The order of declarations does not matter.** If the lines of a script are reordered, each of
them still has the undefined names that it had before, at the same columns. The symbols of paths,
which may then belong to other lines, have no influence in any table of symbols. -/
theorem declaration_order_irrelevant (registry : Registry) (lines : List Line) :
    (∀ order : Equiv.Perm (Fin lines.length),
      Usage.validate registry (Symbols.extract (reorder lines order)) (reorder lines order) =
        (List.ofFn fun i => ((Usage.validate registry (Symbols.extract lines) lines).filter
          fun f => f.line = (order i : Nat)).map (·.moveLine fun _ => i)).flatten) ∧
    ∀ symbols : List Symbol,
      Usage.validate registry (symbols.filter (!·.isProperty)) lines =
        Usage.validate registry symbols lines := by
  refine ⟨?_, fun symbols => Usage.validate_filter_isProperty registry symbols lines⟩
  intro order
  rw [Usage.validate_extract_of_perm registry (reorder_perm lines order),
    Usage.validate_eq, reorder]
  congr 1
  refine List.ext_getElem (by simp) ?_
  intro i hi hi'
  rw [List.getElem_mapIdx, List.getElem_ofFn, List.getElem_ofFn, Usage.filter_line_validate,
    List.getD_eq_getElem _ _ (order _).isLt, ← Usage.lineFindings_moveLine]
  rfl

/-- When two lines that write to the same path are exchanged, the path has another column: it
belongs to the other line. -/
example :
    Symbols.extract ["Data.total = 1".toList, "  Data.total = 2".toList] =
      [⟨"Data.total", some "property", 0, 0⟩] ∧
    Symbols.extract (reorder ["Data.total = 1".toList, "  Data.total = 2".toList]
      (Equiv.swap 0 1)) =
      [⟨"Data.total", some "property", 0, 2⟩] := by
  decide +kernel

end ScriptLint
