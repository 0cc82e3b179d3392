import ScriptLint.Text.Blank
import ScriptLint.Text.Lowercase
import ScriptLint.Value.Display

/-!
# Options and their settings

A setting is a key with a value of any kind. `Options.apply` takes settings over into options, in
order: keys that name no option are passed over, so that the settings of an editor can be given as
they are, and the first value that cannot be read stops it.
-/

namespace ScriptLint

/-- The options of an analysis. -/
structure Options where
  /-- Whether calls that the host must provide are noted. -/
  warnOnHostFunctions : Bool := true
deriving Repr, DecidableEq

/-- A value for an option that cannot be read. -/
structure SettingError where
  key : String
  value : Value
deriving Repr

/-- The wording of a failure. -/
def SettingError.message (e : SettingError) : String :=
  "option " ++ showQuoted e.key ++ " expects a boolean, got " ++ e.value.shown

/-- The words for true. -/
def trueWords : List String := ["true", "yes", "on", "1"]

/-- The words for false. -/
def falseWords : List String := ["false", "no", "off", "0"]

/-- The truth value of a word, in any case and with any blanks around it. -/
def readBoolWord? (s : String) : Option Bool :=
  let word := lowercase (String.ofList (trim s.toList))
  if trueWords.contains word then some true
  else if falseWords.contains word then some false
  else none

/-- The truth value that a value stands for: itself, a word, or one of the integers 0 and 1. -/
def readBool? : Value → Option Bool
  | .bool b => some b
  | .text s => readBoolWord? s
  | .int n => if n = 0 then some false else if n = 1 then some true else none
  | _ => none

namespace Options

/-- The name of the option in settings of the command line and the environment. -/
def warnKey : String := "warn_on_host_functions"

/-- The name of the option in the settings of an editor. -/
def editorWarnKey : String := "warnOnHostFunctions"

/-- Whether a key names an option. -/
def isKey (key : String) : Bool := key == warnKey || key == editorWarnKey

/-- Takes one setting over. -/
def set (o : Options) (key : String) (value : Value) : Except SettingError Options :=
  if isKey key then
    match readBool? value with
    | some b => .ok { o with warnOnHostFunctions := b }
    | none => .error ⟨key, value⟩
  else .ok o

/-- Takes settings over, in order. -/
def apply (o : Options) : List (String × Value) → Except SettingError Options
  | [] => .ok o
  | (key, value) :: rest =>
    match o.set key value with
    | .ok o' => apply o' rest
    | .error e => .error e

end Options

end ScriptLint
