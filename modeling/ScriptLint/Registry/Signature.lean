/-!
# Function signatures

What is known of a function: its parameters with their types, the type of its result, a category
and a description. `Signature.label` writes it as one line.
-/

namespace ScriptLint

/-- The types of script values. -/
inductive DataType where
  | null
  | number
  | string
  | boolean
  | object
  | array
deriving Repr, DecidableEq

namespace DataType

/-- All types. -/
def all : List DataType := [.null, .number, .string, .boolean, .object, .array]

/-- The name of a type. -/
def name : DataType → String
  | .null => "null"
  | .number => "number"
  | .string => "string"
  | .boolean => "boolean"
  | .object => "object"
  | .array => "array"

/-- The type with a given name. -/
def ofName? (s : String) : Option DataType := all.find? (·.name == s)

end DataType

/-- One type, or a choice of several. -/
inductive TypeExpr where
  | one (type : DataType)
  | union (types : List DataType)
deriving Repr, DecidableEq

/-- The text of a type expression; a union is joined by bars. -/
def TypeExpr.label : TypeExpr → String
  | .one type => type.name
  | .union types => " | ".intercalate (types.map (·.name))

/-- A parameter of a function. -/
structure Parameter where
  name : String
  type : TypeExpr
  description : String
  optional : Bool := false
deriving Repr, DecidableEq

/-- The text of a parameter: its name, a question mark if it may be left out, and its type. -/
def Parameter.label (p : Parameter) : String :=
  p.name ++ (if p.optional then "?" else "") ++ ": " ++ p.type.label

/-- What is known of a function. -/
structure Signature where
  name : String
  category : String
  parameters : List Parameter
  returnType : TypeExpr
  description : String
  examples : List String := []
deriving Repr, DecidableEq

/-- A signature in one line: the name, the parameters and the type of the result. -/
def Signature.label (s : Signature) : String :=
  s.name ++ "(" ++ ", ".intercalate (s.parameters.map (·.label)) ++ ") -> " ++ s.returnType.label

end ScriptLint
