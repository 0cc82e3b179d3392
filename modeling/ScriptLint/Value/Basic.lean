import ScriptLint.Decimal.Double

/-!
# Values and mappings

The values that settings and reports are made of. A mapping keeps its keys in the order in which
they were first set; setting a key again changes its value and not its place.
-/

namespace ScriptLint

/-- Keys with their values, in insertion order. -/
abbrev Mapping (α : Type) := List (String × α)

namespace Mapping

/-- Sets the value of a key: in place if the key is there, and behind the others if not. -/
def set {α : Type} (key : String) (value : α) : Mapping α → Mapping α
  | [] => [(key, value)]
  | (k, v) :: rest => if k = key then (k, value) :: rest else (k, v) :: set key value rest

/-- Sets all entries of a list, one after the other. -/
def setAll {α : Type} (m : Mapping α) (entries : List (String × α)) : Mapping α :=
  entries.foldl (fun m e => m.set e.1 e.2) m

/-- The mapping of a list of entries. -/
def ofEntries {α : Type} (entries : List (String × α)) : Mapping α := setAll [] entries

/-- The value of a key. -/
def get? {α : Type} (m : Mapping α) (key : String) : Option α := m.lookup key

end Mapping

/-- A value of a setting or of a report. -/
inductive Value where
  | null
  | bool (b : Bool)
  | int (n : Int)
  | real (x : Double)
  | text (s : String)
  | list (items : List Value)
  | mapping (entries : List (String × Value))
deriving Repr, Inhabited

/-- Whether a value is null. -/
def Value.isNull : Value → Bool
  | .null => true
  | _ => false

end ScriptLint
