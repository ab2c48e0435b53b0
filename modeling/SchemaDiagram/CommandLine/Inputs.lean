import SchemaDiagram.Files.Tree

/-! The files that a run reads: scripts, and the text that states relations. -/
namespace SchemaDiagram.CommandLine

structure Inputs where
  scripts : List Path := []
  relations : Option Path := none
deriving DecidableEq

namespace Inputs

/-- The scripts that one path gives: those below a folder, or the path itself. -/
def scriptsAt (files : Files) (pattern raw : Text) : List Path :=
  let path := Path.ofText raw
  if files.isFolderAt path then files.search path pattern else [path]

/-- The first file below a folder that states relations. -/
def relationsAt (files : Files) (pattern raw : Text) : Option Path :=
  let path := Path.ofText raw
  if files.isFolderAt path then (files.search path pattern).head? else none

/-- The scripts of all paths in their order, and the relations of the first path that has any. -/
def gather (files : Files) (scriptPattern relationsPattern : Text) (paths : List Text) :
    Inputs :=
  { scripts := paths.flatMap (scriptsAt files scriptPattern)
    relations := paths.findSome? (relationsAt files relationsPattern) }

/-- The files of all paths. The first folder among them shows whether the patterns are refused. -/
def collect (files : Files) (scriptPattern relationsPattern : Text) (paths : List Text) :
    Except PatternFault Inputs :=
  let refusal? := (Pattern.refusal? scriptPattern).or (Pattern.refusal? relationsPattern)
  match refusal?, paths.any fun raw => files.isFolderAt (Path.ofText raw) with
  | some fault, true => .error fault
  | _, _ => .ok (gather files scriptPattern relationsPattern paths)

end Inputs
end SchemaDiagram.CommandLine
