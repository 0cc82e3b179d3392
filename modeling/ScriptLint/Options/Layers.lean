import ScriptLint.Options.Directive

/-!
# Layers of settings

Options come from the environment, from the directives of the script and from explicit overrides,
each layer on top of the one before. The layers are applied in this order, so a value that cannot be
read is reported even if a later layer would replace it.
-/

namespace ScriptLint

/-- Where settings come from. -/
inductive Origin where
  | environment
  | inline
  | overrides
deriving Repr, DecidableEq

/-- The name of an origin. -/
def Origin.name : Origin → String
  | .environment => "environment"
  | .inline => "inline"
  | .overrides => "overrides"

/-- Settings from one origin. -/
structure Layer where
  origin : Origin
  settings : Mapping Value
deriving Repr

namespace Options

/-- The environment variable of the option. -/
def environmentKey : String := "JYROLINT_WARN_ON_HOST_FUNCTIONS"

/-- The settings that an environment gives. -/
def ofEnvironment (environment : Mapping Value) : Mapping Value :=
  match environment.get? environmentKey with
  | none => []
  | some value => if value.isNull then [] else [(warnKey, value)]

/-- The overrides that are given; null stands for one that is not. -/
def givenOverrides (overrides : Mapping Value) : Mapping Value :=
  overrides.filter fun entry => !entry.2.isNull

/-- The layers of settings for a script, lowest first. -/
def layers (text : List Char) (overrides environment : Mapping Value) : List Layer :=
  [⟨.environment, ofEnvironment environment⟩, ⟨.inline, Directive.flags text⟩,
    ⟨.overrides, givenOverrides overrides⟩]

/-- Applies layers on top of options. -/
def applyLayers (o : Options) : List Layer → Except SettingError Options
  | [] => .ok o
  | layer :: rest =>
    match o.apply layer.settings with
    | .ok o' => applyLayers o' rest
    | .error e => .error e

/-- The options for a script. -/
def resolve (text : List Char) (overrides environment : Mapping Value) :
    Except SettingError Options :=
  applyLayers {} (layers text overrides environment)

end Options

end ScriptLint
