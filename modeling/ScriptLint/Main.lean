import ScriptLint.Command.Run

/-!
# The program

Reads the files that the arguments may name and the environment variable, runs the command and
prints what it leaves behind.
-/

namespace ScriptLint

/-- What stands at a path. -/
def entryAt (path : String) : IO (Option Entry) := do
  try
    let bytes ← IO.FS.readBinFile path
    return some (.file bytes.toList)
  catch
    | .noFileOrDirectory .. => return none
    | _ => return some .directory

/-- What stands at the paths that the arguments may name. -/
def workspaceOf (words : List String) : IO Workspace := do
  let entries ← words.mapM fun word => return (word, ← entryAt word)
  return fun path => (entries.lookup path).join

end ScriptLint

open ScriptLint in
/-- Runs the program with its arguments. -/
def main (words : List String) : IO UInt32 := do
  let environment ← IO.getEnv Options.environmentKey
  let outcome := run { program := "jyrolint", environment, workspace := ← workspaceOf words } words
  IO.print outcome.stdout
  IO.eprint outcome.stderr
  return outcome.exitCode.toUInt32
