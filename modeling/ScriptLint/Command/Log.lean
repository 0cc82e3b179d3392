import ScriptLint.Analysis.Session
import ScriptLint.Options.Layers
import ScriptLint.Source.Balance

/-!
# Log lines

What a run says about its own work when it is asked to: which settings were applied, which lines
have unmatched brackets, and how much each analysis found. The lines come in the order of the work,
and end where the work ends.
-/

namespace ScriptLint

/-- A line of the log: the part of the program that speaks, and what it says. -/
structure LogLine where
  topic : String
  message : String
deriving Repr, DecidableEq

/-- A log line as it is printed. -/
def LogLine.text (l : LogLine) : String :=
  "DEBUG jyrolint." ++ l.topic ++ ": " ++ l.message ++ "\n"

namespace Log

/-- Whether a setting stops its layer. -/
def isUnreadable (entry : String × Value) : Bool :=
  Options.isKey entry.1 && (readBool? entry.2).isNone

/-- The settings of a layer that name no option, up to the first that cannot be read. -/
def ignoredKeys (settings : Mapping Value) : List String :=
  ((settings.takeWhile (!isUnreadable ·)).filter (!Options.isKey ·.1)).map (·.1)

/-- The log of a layer; an empty one is passed over in silence. -/
def ofLayer (layer : Layer) : List LogLine :=
  if layer.settings.isEmpty then []
  else
    ⟨"config", "applying " ++ layer.origin.name ++ " options: " ++
      (Value.mapping layer.settings).shown⟩ ::
      (ignoredKeys layer.settings).map fun key =>
        ⟨"config", "ignoring unknown option " ++ showQuoted key⟩

/-- The log of layers, up to the first that fails. -/
def ofLayers : List Layer → List LogLine
  | [] => []
  | layer :: rest =>
    ofLayer layer ++ if layer.settings.any isUnreadable then [] else ofLayers rest

/-- The log of settling the options of a script. -/
def ofResolve (text : List Char) (overrides environment : Mapping Value) : List LogLine :=
  (Directive.unreadable text).map (fun body =>
    ⟨"config", "unreadable @jyro directive: " ++ String.ofList body⟩) ++
    ofLayers (Options.layers text overrides environment)

/-- The balance of brackets, as a mapping from each pair. -/
def balanceText (b : Balance) : String :=
  (Value.mapping [("()", .int b.round), ("\x7b\x7d", .int b.curly), ("[]", .int b.square)]).shown

/-- The log of unmatched brackets. -/
def ofBrackets (lines : List Line) : List LogLine :=
  (unevenLines 0 lines).map fun (index, balance) =>
    ⟨"syntax", "line " ++ showNat index ++ ": bracket balance " ++ balanceText balance⟩

/-- The blocks that are open behind the lines from line `index` on. -/
def openAtEnd (index : Nat) (nesting : Nesting) : List Line → Nesting
  | [] => nesting
  | line :: rest => openAtEnd (index + 1) (nesting.stepLine index line).after rest

/-- The log of blocks left open. -/
def ofOpenBlocks (lines : List Line) : List LogLine :=
  let count := (openAtEnd 0 {} lines).blocks.length
  if count = 0 then []
  else [⟨"syntax", showNat count ++ " block(s) left open at end of document"⟩]

/-- The log of taking the symbols of a script. -/
def ofSymbols (lines : List Line) : LogLine :=
  ⟨"symbols", "extracted " ++ showNat (Symbols.extract lines).length ++ " symbol(s) from " ++
    showNat lines.length ++ " line(s)"⟩

/-- The log of a whole analysis. -/
def ofAnalysis (name : String) (registry : Registry) (options : Options) (lines : List Line) :
    List LogLine :=
  let symbols := Symbols.extract lines
  let undefinedCount := (Usage.validate registry symbols lines).length
  let total := (findings registry options lines).length
  ofBrackets lines ++ ofOpenBlocks lines ++
    [ofSymbols lines,
      ⟨"semantics", showNat undefinedCount ++ " undefined-variable warning(s)"⟩,
      ⟨"analyzer", (if name.isEmpty then "<text>" else name) ++ ": " ++ showNat lines.length ++
        " line(s), " ++ showNat total ++ " diagnostic(s), " ++ showNat symbols.length ++
        " symbol(s)"⟩]

/-- The printed log. -/
def text (lines : List LogLine) : String := String.join (lines.map (·.text))

end Log

end ScriptLint
