import ScriptLint.Registry.Catalogue
import ScriptLint.Text.Quoted

/-!
# Building registries from descriptions

A draft describes a function with its types given by name. Checking a draft fails on a name that
is no type, and adding it fails on a name that is taken; `Registry.addAll` takes drafts one by one
and stops at the first failure.

A registry can also be asked for by what it holds: the built-in functions, a part of them, or
functions of one's own.
-/

namespace ScriptLint

/-- Why a registry could not be built. -/
inductive RegistryError where
  | unknownType (name : String)
  | duplicateName (name : String)
deriving Repr, DecidableEq

/-- The wording of a failure. -/
def RegistryError.message : RegistryError → String
  | .unknownType name => showQuoted name ++ " is not a valid JyroType"
  | .duplicateName name => "duplicate function name: " ++ name

/-- A type expression by the names of its types. -/
inductive TypeDraft where
  | one (name : String)
  | union (names : List String)
deriving Repr, DecidableEq

/-- A parameter whose type is given by name. -/
structure ParameterDraft where
  name : String
  type : TypeDraft
  description : String := ""
  optional : Bool := false
deriving Repr, DecidableEq

/-- A function whose types are given by name. -/
structure SignatureDraft where
  name : String
  category : String := "Host"
  parameters : List ParameterDraft := []
  returnType : TypeDraft := .one "null"
  description : String := ""
  examples : List String := []
deriving Repr, DecidableEq

/-- The type with a given name. -/
def DataType.check (name : String) : Except RegistryError DataType :=
  match DataType.ofName? name with
  | some type => .ok type
  | none => .error (.unknownType name)

/-- The type expression of a draft. -/
def TypeDraft.check : TypeDraft → Except RegistryError TypeExpr
  | .one name => (DataType.check name).map .one
  | .union names => (names.mapM DataType.check).map .union

/-- The parameter of a draft. -/
def ParameterDraft.check (d : ParameterDraft) : Except RegistryError Parameter :=
  d.type.check.map fun type =>
    { name := d.name, type, description := d.description, optional := d.optional }

/-- The signature of a draft. The types are checked in the order in which they are written. -/
def SignatureDraft.check (d : SignatureDraft) : Except RegistryError Signature := do
  let parameters ← d.parameters.mapM ParameterDraft.check
  let returnType ← d.returnType.check
  return {
    name := d.name
    category := d.category
    parameters
    returnType
    description := d.description
    examples := d.examples }

namespace Registry

/-- Adds a function, or says that its name is taken. -/
def add (r : Registry) (f : Signature) : Except RegistryError Registry :=
  match r.insert? f with
  | some r' => .ok r'
  | none => .error (.duplicateName f.name)

/-- Checks drafts and adds them one by one. -/
def addAll (r : Registry) : List SignatureDraft → Except RegistryError Registry
  | [] => .ok r
  | d :: ds =>
    match d.check with
    | .error e => .error e
    | .ok f =>
      match r.add f with
      | .error e => .error e
      | .ok r' => addAll r' ds

/-- The registry of the drafts alone. -/
def ofDrafts (drafts : List SignatureDraft) : Except RegistryError Registry := empty.addAll drafts

end Registry

/-- A description of a registry. -/
inductive RegistrySpec where
  | builtIn
  | functions (drafts : List SignatureDraft)
  | restrictTo (names : List String)
  | without (names : List String)
deriving Repr, DecidableEq

/-- The registry that a description asks for. -/
def RegistrySpec.build : RegistrySpec → Except RegistryError Registry
  | .builtIn => .ok .builtIn
  | .functions drafts => Registry.ofDrafts drafts
  | .restrictTo names => .ok (Registry.builtIn.restrictTo names)
  | .without names => .ok (Registry.builtIn.without names)

end ScriptLint
