import ScriptLint.Options.Setting
import ScriptLint.Source.Line
import ScriptLint.Text.Blank
import ScriptLint.Value.JsonReader

/-!
# Inline directives

A comment line near the top of a script can set options for it:

* `# @jyro: {"warnOnHostFunctions": false}`, a JSON object, or
* `# @jyro: warnOnHostFunctions=false`, assignments with commas or semicolons between them.

The colon may be missing. Only the first `maxDirectiveLines` lines are read, where a line ends at
any line break. A JSON object that cannot be read is passed over.
-/

namespace ScriptLint

namespace Directive

/-- How many lines are searched for directives. -/
def maxDirectiveLines : Nat := 25

/-- The word that marks a directive. -/
def mark : List Char := "@jyro".toList

/-- Whether the mark occurs anywhere in a text. -/
def mentionsMark : List Char → Bool
  | [] => false
  | c :: cs => mark.isPrefixOf (c :: cs) || mentionsMark cs

/-- What follows the mark of a directive, if a line is one. The mark must occur in its exact
spelling somewhere on the line, and in any case at its start. -/
def body? (line : List Char) : Option (List Char) :=
  let comment := trim line
  if comment.head? = some commentMark && mentionsMark comment then
    let directive := trim (comment.dropWhile (· == commentMark))
    if mark.isPrefixOf (lowerFrom [] directive) then
      let body := trim (directive.drop mark.length)
      some (if body.head? = some ':' then trim (body.drop 1) else body)
    else none
  else none

/-- The assignment in a part of a directive: a key that is not blank, an equals sign and a value. -/
def assignment? (part : List Char) : Option (String × Value) :=
  let key := trim (part.takeWhile (· != '='))
  match part.dropWhile (· != '=') with
  | [] => none
  | _ :: value =>
    if key.isEmpty then none else some (String.ofList key, .text (String.ofList (trim value)))

/-- The assignments of a directive. -/
def assignments (body : List Char) : List (String × Value) :=
  (cutAt (fun c => c == ';' || c == ',') body).filterMap assignment?

/-- Whether a directive is written as a JSON object. -/
def isJson (body : List Char) : Bool := body.head? == some '{'

/-- The settings of a directive. -/
def settings (body : List Char) : List (String × Value) :=
  if isJson body then
    match Json.read? body with
    | some (.mapping entries) => entries
    | _ => []
  else assignments body

/-- The directives of a text. -/
def bodies (text : List Char) : List (List Char) :=
  ((textLines text).take maxDirectiveLines).filterMap body?

/-- The settings that the directives of a text give. -/
def flags (text : List Char) : Mapping Value := Mapping.ofEntries ((bodies text).flatMap settings)

/-- The directives of a text that cannot be read. -/
def unreadable (text : List Char) : List (List Char) :=
  (bodies text).filter fun body => isJson body && (Json.read? body).isNone

end Directive

end ScriptLint
