import ScriptLint.Proofs.Insertion
import ScriptLint.Proofs.Writes

/-!
# Symbols of scripts one behind the other

The symbols of a script depend on what stands before it only through the paths that were written to
there. More such paths take symbols away: those of the paths that are already known
(`extractFrom_eq_filter`). This goes down to the writes of a line, and up through the order by
column, which does not change the order of the symbols that stay (`filter_byColumn`).

The paths that were written to can be read off the symbols of the first script, since each of them
has one. So the table of two scripts is made of their tables (`extract_append`).
-/

namespace ScriptLint.Symbols

/-! ## The order by column -/

/-- A symbol is put in front of symbols that do not stand at a smaller column. -/
theorem insertByColumn_of_le {s : Symbol} {ss : List Symbol}
    (h : ∀ t ∈ ss, s.character ≤ t.character) : insertByColumn s ss = s :: ss := by
  cases ss with
  | nil => rfl
  | cons t ts => rw [insertByColumn, if_pos (h t List.mem_cons_self)]

section
variable (keep : Symbol → Bool)

/-- A symbol may be inserted before or after some others are left out. -/
theorem filter_insertByColumn (s : Symbol) {ss : List Symbol}
    (h : ss.Pairwise (·.character ≤ ·.character)) :
    (insertByColumn s ss).filter keep =
      if keep s then insertByColumn s (ss.filter keep) else ss.filter keep := by
  induction ss with
  | nil => simp [insertByColumn, List.filter_cons]
  | cons t ts ih =>
    obtain ⟨ht, hts⟩ := List.pairwise_cons.1 h
    rw [insertByColumn]
    split
    · next hle =>
      have hall : ∀ u ∈ (t :: ts).filter keep, s.character ≤ u.character := by
        intro u hu
        rcases List.mem_cons.1 (List.mem_filter.1 hu).1 with rfl | hu
        · exact hle
        · exact Int.le_trans hle (ht u hu)
      rw [List.filter_cons, insertByColumn_of_le hall]
    · next hlt =>
      rw [List.filter_cons, ih hts, List.filter_cons]
      cases keep t with
      | true =>
        cases keep s with
        | true => simp [insertByColumn, hlt]
        | false => rfl
      | false => rfl

/-- The symbols that are kept are listed in the same order as without the others. -/
theorem filter_byColumn (ss : List Symbol) :
    (byColumn ss).filter keep = byColumn (ss.filter keep) := by
  induction ss with
  | nil => rfl
  | cons s ss ih =>
    have hsorted : (byColumn ss).Pairwise (·.character ≤ ·.character) := by
      refine (pairwise_byColumn (R := fun _ _ => True) ?_).imp ?_
      · exact List.pairwise_of_forall fun _ _ _ => trivial
      · intro s t hst
        exact hst.elim Int.le_of_lt fun heq => Int.le_of_eq heq.1
    rw [byColumn, filter_insertByColumn keep s hsorted, ih, List.filter_cons]
    split
    · rfl
    · rfl

end

/-! ## Paths that are known -/

/-- A symbol stays if it is not that of a path in a list. -/
def keepsBeside (known : List String) (s : Symbol) : Bool :=
  !(s.isProperty && known.contains s.name)

section
variable {known : List String}

/-- If more paths were written to before, the writes to these are no first writes any more. -/
theorem firstWrites_eq_filter {seen seen' : List String}
    (h : ∀ path, path ∈ seen' ↔ path ∈ seen ∨ path ∈ known) (ws : List Write) :
    firstWrites seen' ws = (firstWrites seen ws).filter (!known.contains ·.path) := by
  induction ws generalizing seen seen' with
  | nil => rfl
  | cons w ws ih =>
    rw [firstWrites, firstWrites]
    by_cases hseen : w.path ∈ seen
    · rw [if_pos (List.contains_iff_mem.2 hseen),
        if_pos (List.contains_iff_mem.2 ((h w.path).2 (.inl hseen)))]
      exact ih h
    · rw [if_neg (mt List.contains_iff_mem.1 hseen), List.filter_cons]
      by_cases hknown : w.path ∈ known
      · rw [if_pos (List.contains_iff_mem.2 ((h w.path).2 (.inr hknown))),
          List.contains_iff_mem.2 hknown]
        refine ih fun path => ?_
        rw [h, List.mem_cons]
        refine ⟨fun hpath => hpath.imp_left .inr, ?_⟩
        rintro ((rfl | hpath) | hpath)
        · exact .inr hknown
        · exact .inl hpath
        · exact .inr hpath
      · have hnew : w.path ∉ seen' := fun hmem => ((h w.path).1 hmem).elim hseen hknown
        rw [if_neg (mt List.contains_iff_mem.1 hnew),
          Bool.eq_false_of_not_eq_true (mt List.contains_iff_mem.1 hknown)]
        refine congrArg (w :: ·) (ih fun path => ?_)
        rw [List.mem_cons, List.mem_cons, h, or_assoc]

/-- If more paths were written to before, the symbols of these go from a line. -/
theorem ofLine_eq_filter {seen seen' : List String}
    (h : ∀ path, path ∈ seen' ↔ path ∈ seen ∨ path ∈ known) (i : Nat) (line : Line) :
    ofLine i seen' line = (ofLine i seen line).filter (keepsBeside known) := by
  rw [ofLine, ofLine]
  cases masked? line with
  | none => rfl
  | some masked =>
    have hdeclared : (declarations i masked ++ iterators i masked).filter (keepsBeside known) =
        declarations i masked ++ iterators i masked := by
      refine List.filter_eq_self.2 fun s hs => ?_
      rw [keepsBeside, isProperty_of_mem_declared hs]
      rfl
    have hwrites : ((firstWrites seen (writes masked)).map (Write.toSymbol i)).filter
        (keepsBeside known) = (firstWrites seen' (writes masked)).map (Write.toSymbol i) := by
      rw [List.filter_map, firstWrites_eq_filter h]
      refine congrArg _ (List.filter_congr fun w hw => ?_)
      rw [Function.comp_apply, keepsBeside,
        isProperty_toSymbol ((firstWrites_sublist _ _).subset hw), Bool.true_and]
      rfl
    show ofMasked i seen' masked = (ofMasked i seen masked).filter (keepsBeside known)
    rw [ofMasked, ofMasked, filter_byColumn, List.filter_append, hdeclared, hwrites]

/-- If more paths were written to before, the symbols of these go from a script. -/
theorem extractFrom_eq_filter {seen seen' : List String}
    (h : ∀ path, path ∈ seen' ↔ path ∈ seen ∨ path ∈ known) (i : Nat) (lines : List Line) :
    extractFrom i seen' lines = (extractFrom i seen lines).filter (keepsBeside known) := by
  induction lines generalizing i seen seen' with
  | nil => rfl
  | cons line lines ih =>
    have hnext (path : String) :
        path ∈ pathsOf line ++ seen' ↔ path ∈ pathsOf line ++ seen ∨ path ∈ known := by
      rw [List.mem_append, List.mem_append, h, or_assoc]
    rw [extractFrom_cons, extractFrom_cons, List.filter_append, ofLine_eq_filter h, ih hnext]

end

/-! ## Two scripts -/

/-- The symbols of two scripts are those of the first one, and those of the second one if the paths
of the first one were written to before. -/
theorem exists_extractFrom_append (i : Nat) (seen : List String) (front back : List Line) :
    ∃ seen', (∀ path, path ∈ seen' ↔ path ∈ seen ∨ ∃ line ∈ front, path ∈ pathsOf line) ∧
      extractFrom i seen (front ++ back) =
        extractFrom i seen front ++ extractFrom (i + front.length) seen' back := by
  induction front generalizing i seen with
  | nil => exact ⟨seen, by simp, rfl⟩
  | cons line front ih =>
    obtain ⟨seen', hseen', heq⟩ := ih (i + 1) (pathsOf line ++ seen)
    refine ⟨seen', fun path => ?_, ?_⟩
    · rw [hseen', List.mem_append]
      simp only [List.mem_cons, exists_eq_or_imp]
      tauto
    · rw [List.cons_append, extractFrom_cons, extractFrom_cons, heq, List.append_assoc,
        List.length_cons, Nat.add_right_comm, Nat.add_assoc]

/-- A symbol of a path that has a symbol in a table. -/
def isRepeatOf (table : List Symbol) (s : Symbol) : Bool :=
  s.isProperty && table.any fun t => t.isProperty && t.name == s.name

/-- A symbol is kept beside a table unless it repeats a property of it. -/
theorem keepsBeside_names (table : List Symbol) (s : Symbol) :
    keepsBeside ((table.filter (·.isProperty)).map (·.name)) s = !isRepeatOf table s := by
  have hnames : ((table.filter (·.isProperty)).map (·.name)).contains s.name =
      table.any fun t => t.isProperty && t.name == s.name := by
    rw [Bool.eq_iff_iff, List.contains_iff_mem, List.mem_map, List.any_eq_true]
    simp only [List.mem_filter, Bool.and_eq_true, beq_iff_eq, and_assoc]
  rw [keepsBeside, isRepeatOf, hnames]

/-- Every declared variable and loop variable of a line that takes part is listed. -/
theorem mem_extractFrom_of_mem_declared {i j : Nat} {seen : List String} {lines : List Line}
    {line : Line} (hline : lines[j]? = some line) (hskip : isSkippable line = false) {s : Symbol}
    (hs : s ∈ declarations (i + j) (maskLine .stringsFirst line) ++
      iterators (i + j) (maskLine .stringsFirst line)) : s ∈ extractFrom i seen lines := by
  induction lines generalizing i j seen with
  | nil => cases hline
  | cons first lines ih =>
    rw [extractFrom_cons]
    cases j with
    | zero =>
      cases hline
      refine List.mem_append_left _ ?_
      rw [ofLine_eq, hskip]
      exact (byColumn_perm _).mem_iff.2 (List.mem_append_left _ hs)
    | succ j =>
      refine List.mem_append_right _ (ih (i := i + 1) hline ?_)
      rwa [Nat.add_right_comm, Nat.add_assoc]

/-- **The table of two scripts.** The symbols of a script with another one behind it are the symbols
of the first one, and then those of the second one further down, without the symbols of paths that
have one in the first table already. The other symbols all stay, and these are the declared
variables and the loop variables of the lines that take part. -/
theorem extract_append (front back : List Line) :
    extract (front ++ back) = extract front ++
      ((extract back).filter (!isRepeatOf (extract front) ·)).map (·.moveLine (front.length + ·)) ∧
    (extract (front ++ back)).filter (!·.isProperty) = (extract front).filter (!·.isProperty) ++
      ((extract back).filter (!·.isProperty)).map (·.moveLine (front.length + ·)) ∧
    ∀ j line, back[j]? = some line → isSkippable line = false →
      ∀ s ∈ declarations j (maskLine .stringsFirst line) ++
        iterators j (maskLine .stringsFirst line),
        s ∈ (extract back).filter (!·.isProperty) := by
  have happend : extract (front ++ back) = extract front ++
      ((extract back).filter (!isRepeatOf (extract front) ·)).map
        (·.moveLine (front.length + ·)) := by
    obtain ⟨seen, hseen, heq⟩ := exists_extractFrom_append 0 [] front back
    -- the paths of the first script are the names in its table
    have hknown (path : String) : path ∈ seen ↔
        path ∈ [] ∨ path ∈ ((extract front).filter (·.isProperty)).map (·.name) := by
      rw [hseen, extract, mem_map_name_filter_isProperty]
      simp
    rw [extract, heq, Nat.zero_add, extractFrom_eq_filter hknown,
      extractFrom_of_aligned _ (aligned_add front.length back), List.filter_map]
    refine congrArg (extract front ++ List.map _ ·) (List.filter_congr fun s _ => ?_)
    exact keepsBeside_names (extract front) s
  refine ⟨happend, ?_, ?_⟩
  · rw [happend, List.filter_append, List.filter_map, List.filter_filter]
    refine congrArg (_ ++ List.map _ ·) (List.filter_congr fun s _ => ?_)
    show (!s.isProperty && !isRepeatOf (extract front) s) = !s.isProperty
    rw [isRepeatOf]
    cases s.isProperty with
    | true => rfl
    | false => rfl
  · intro j line hline hskip s hs
    refine List.mem_filter.2 ⟨mem_extractFrom_of_mem_declared hline hskip ?_, ?_⟩
    · rwa [Nat.zero_add]
    · rw [isProperty_of_mem_declared hs]
      rfl

/-- A path is written to in both scripts. The second one also declares a variable whose type is
called as the role of paths is; the variable stays. -/
theorem extract_append_with_known_path :
    extract (["a.b = 1".toList] ++ ["var a : property".toList, "a.b = 2 a.c = 3".toList]) =
      [⟨"a.b", some "property", 0, 0⟩, ⟨"a", some "property", 1, 4⟩,
       ⟨"a.c", some "property", 2, 8⟩] ∧
    ⟨"a", some "property", 0, 4⟩ ∈
      (extract ["var a : property".toList, "a.b = 2 a.c = 3".toList]).filter (!·.isProperty) := by
  have happend := extract_append ["a.b = 1".toList]
    ["var a : property".toList, "a.b = 2 a.c = 3".toList]
  refine ⟨?_, happend.2.2 0 "var a : property".toList rfl (by decide +kernel) _ (by decide +kernel)⟩
  rw [happend.1]
  decide +kernel

end ScriptLint.Symbols
