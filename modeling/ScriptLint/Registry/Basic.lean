import ScriptLint.Registry.Signature
import ScriptLint.Text.Lowercase
import ScriptLint.Text.Quoted

/-!
# Registries of functions

A registry holds functions with distinct names, in the order in which they were added. A name is
found exactly (`hasExact`) or without regard to case (`hasName`, `get?`); names that differ only in
case may stand side by side, and then the last one answers. `restrictTo` and `without` keep a part
of a registry.
-/

namespace ScriptLint

/-- Functions with distinct names. -/
structure Registry where
  functions : List Signature
  distinct : (functions.map (·.name)).Nodup

namespace Registry

/-- The registry without functions. -/
def empty : Registry := ⟨[], by simp⟩

/-- The names of the functions. -/
def names (r : Registry) : List String := r.functions.map (·.name)

/-- The number of functions. -/
def size (r : Registry) : Nat := r.functions.length

/-- A registry by its size. -/
def summary (r : Registry) : String := "FunctionRegistry(" ++ showNat r.size ++ " functions)"

/-- Whether a function has exactly this name. -/
def hasExact (r : Registry) (name : String) : Bool := r.names.contains name

/-- Whether two names agree up to case. -/
def sameName (a b : String) : Bool := lowercase a == lowercase b

/-- Whether a function has this name up to case. -/
def hasName (r : Registry) (name : String) : Bool := r.functions.any fun f => sameName f.name name

/-- The last function that has this name up to case. -/
def get? (r : Registry) (name : String) : Option Signature :=
  (r.functions.filter fun f => sameName f.name name).getLast?

/-- The functions of a category. -/
def byCategory (r : Registry) (category : String) : List Signature :=
  r.functions.filter (·.category == category)

/-- The categories, in the order of their first functions. -/
def categories (r : Registry) : List String := (r.functions.map (·.category)).eraseDups

/-- The functions that satisfy a condition. -/
def filter (r : Registry) (keep : Signature → Bool) : Registry :=
  ⟨r.functions.filter keep, r.distinct.sublist (List.filter_sublist.map _)⟩

/-- Whether a name is in a list of names, up to case. -/
def isListed (listed : List String) (name : String) : Bool := listed.any (sameName · name)

/-- The functions with the given names, up to case. -/
def restrictTo (r : Registry) (listed : List String) : Registry :=
  r.filter fun f => isListed listed f.name

/-- The functions without the given names, up to case. -/
def without (r : Registry) (listed : List String) : Registry :=
  r.filter fun f => !isListed listed f.name

/-- Adds a function behind the others, unless its name is taken. -/
def insert? (r : Registry) (f : Signature) : Option Registry :=
  if h : f.name ∈ r.functions.map (·.name) then none
  else some ⟨r.functions ++ [f], by
    rw [List.map_append, List.map_cons, List.map_nil, List.nodup_append]
    refine ⟨r.distinct, by simp, ?_⟩
    intro a ha b hb
    rw [List.mem_singleton] at hb
    rintro rfl
    exact h (hb ▸ ha)⟩

end Registry

end ScriptLint
