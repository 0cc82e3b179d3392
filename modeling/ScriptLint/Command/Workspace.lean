import ScriptLint.Source.Line

/-!
# Files and directories

What a command finds at a path. `Workspace.ofFiles` is a working directory with the given files:
paths are followed segment by segment, `.` and `..` as usual, and a path that goes on behind a file
leads nowhere. Nothing is known outside the working directory but that the directories above it
exist.
-/

namespace ScriptLint

/-- What stands at a path. -/
inductive Entry where
  | file (bytes : List UInt8)
  | directory
deriving Repr, DecidableEq

/-- What stands at each path, if anything. -/
abbrev Workspace := String → Option Entry

namespace Workspace

/-- The segments of a path. -/
def segments (path : String) : List String := (cutAt (· == '/') path.toList).map String.ofList

/-- Whether a segment stays where it is. -/
def isStay (segment : String) : Bool := segment == "" || segment == "."

/-- The entry under a name in a directory. What was put there last counts, and the directories above
a file exist with it. -/
def child? (files : List (List String × Entry)) (path : List String) : Option Entry :=
  match files.reverse.lookup path with
  | some entry => some entry
  | none => if files.any fun f => path.isPrefixOf f.1 then some .directory else none

/-- Follows segments above the working directory. -/
def above : List String → Option Entry
  | [] => some .directory
  | s :: rest => if isStay s || s == ".." then above rest else none

/-- Follows segments from a directory of the working directory. -/
def follow (files : List (List String × Entry)) (place : List String) :
    List String → Option Entry
  | [] => some .directory
  | s :: rest =>
    if isStay s then follow files place rest
    else if s == ".." then
      if place.isEmpty then above rest else follow files place.dropLast rest
    else
      match child? files (place ++ [s]) with
      | none => none
      | some .directory => follow files (place ++ [s]) rest
      | some (.file bytes) => if rest.isEmpty then some (.file bytes) else none

/-- A working directory with the given files and directories. -/
def ofFiles (files : List (String × Entry)) : Workspace := fun path =>
  let known := files.map fun f => ((segments f.1).filter (!isStay ·), f.2)
  if path.isEmpty then none
  else if path.toList.head? = some '/' then above (segments path)
  else follow known [] (segments path)

end Workspace

end ScriptLint
