import SchemaDiagram.CommandLine.Run

/-!
The program. It looks at the places that its arguments name, runs on what stands there, and passes
on what the run shows, tells and writes.
-/
namespace SchemaDiagram.CommandLine

/-- The names of the variables that settings are read from. -/
def settingNames : List String :=
  ["FLASK_ENV", "SECRET_KEY", "LOG_LEVEL", "SQL_GLOB", "RELATIONS_GLOB", "WATERMARK", "HOST", "PORT",
    "MAX_CONTENT_LENGTH"]

def usage : String := "usage: schema-diagram [-h] [-o OUTPUT] [-r RELATIONS] [--log-level LOG_LEVEL] [paths ...]"

def environment : IO Settings.Environment :=
  settingNames.filterMapM fun name => do
    return (← IO.getEnv name).map fun value => (name.toList, value.toList)

/-- An entry of a folder, with all that stands below it. -/
partial def snapshot (entry : IO.FS.DirEntry) : IO (Text × FileTree) := do
  let name := entry.fileName.toList
  if ← entry.path.isDir then
    return (name, .folder (← (← entry.path.readDir).toList.mapM snapshot))
  else return (name, .file (← IO.FS.readBinFile entry.path).toList)

/-- The files with what stands at one more path, and with the folders on the way to it. -/
def look (files : Files) (path : Path) : IO Files := do
  let mut files := files
  let mut names := if path.root.isEmpty then files.here else []
  let mut spot := (← IO.currentDir) / String.ofList path.root
  for name in path.parts do
    names := if name == ['.', '.'] then names.dropLast else names ++ [name]
    spot := spot / String.ofList name
    if (← spot.isDir) && !files.exists? ⟨['/'], names⟩ then
      files := { files with root := files.root.place .empty names }
  if ← spot.isDir then
    let entries ← (← spot.readDir).toList.mapM snapshot
    return { files with root := files.root.place (.folder entries) names }
  else if ← spot.pathExists then
    let content ← IO.FS.readBinFile spot
    return { files with root := files.root.place (.file content.toList) names }
  else return files

/-- The files that arguments name, seen from the working folder. -/
def sight (args : List Text) : IO Files := do
  let here := Path.partsOf (← IO.currentDir).toString.toList
  let start : Files := { root := FileTree.empty.place .empty here, here }
  match Options.ofArguments args with
  | .error _ => return start
  | .ok o =>
    let output := if o.output.isEmpty then [] else [o.output]
    (given o ++ output).foldlM (fun files raw => look files (Path.ofText raw)) start

/-- Passes on what a run has done. -/
def pass (done : Session) : IO Unit := do
  for (path, text) in done.written do
    IO.FS.writeFile (String.ofList path.render) (String.ofList text)
  IO.eprint (String.ofList done.told)
  IO.print (String.ofList done.shown)

def program (args : List String) : IO UInt32 := do
  match Settings.ofEnvironment (← environment) with
  | .error fault => IO.eprintln (String.ofList fault.message); return 1
  | .ok settings =>
    let args := args.map (·.toList)
    match run settings (← sight args) args with
    | .error .help => IO.println usage; return 0
    | .error .misuse => IO.eprintln usage; return 2
    | .ok (answer, done) =>
      pass done
      match answer with
      | .error fault => IO.eprintln (String.ofList fault.message); return 1
      | .ok exit => return exit.toUInt32

end SchemaDiagram.CommandLine

def main (args : List String) : IO UInt32 := SchemaDiagram.CommandLine.program args
