import SchemaDiagram.Batch
import SchemaDiagram.CommandLine.Inputs
import SchemaDiagram.CommandLine.Options
import SchemaDiagram.Settings

/-!
Runs from the command line. All files are read before the first script is parsed, and the diagram
is shown only when everything has worked. What a run has done stays done when it fails later.
-/
namespace SchemaDiagram.CommandLine

/-- What a run has done so far: the texts that it has shown and told, and the files written. -/
structure Session where
  shown : Text := []
  told : Text := []
  written : List (Path × Text) := []
deriving DecidableEq

/-- The files after all that has been written. -/
def Session.filesAfter (s : Session) (files : Files) : Files :=
  s.written.foldl (fun files entry => ((files.write entry.1 entry.2).toOption).getD files) files

/-- What breaks a run off. -/
inductive Breakdown where
  /-- The name of the log level stands for something else. -/
  | level (message : Text)
  | pattern (fault : PatternFault)
  | script (fault : Fault)
  | file (fault : FileFault)
deriving DecidableEq

def Breakdown.message : Breakdown → Text
  | level message => message
  | pattern fault => fault.message
  | script fault => fault.message
  | file fault => fault.message

abbrev Running := ExceptT Breakdown (StateM Session)

/-- A part of a run that ends at the first file that cannot be used. -/
abbrev Filing := ExceptT FileFault Running

/-- Shows a text. -/
def display (t : Text) : Running Unit := modify fun s => { s with shown := s.shown ++ t }

/-- Tells a text beside what is shown. -/
def tell (t : Text) : Running Unit := modify fun s => { s with told := s.told ++ t }

/-- Writes a text to a file, unless the files as they are then have no place for it. -/
def save (files : Files) (path : Path) (text : Text) : Filing Unit := do
  let done ← get
  let _ ← (done.filesAfter files).writable path
  modify fun s => { s with written := s.written ++ [(path, text)] }

/-- The paths that a run is given; an empty switch for the relations gives none. -/
def given (o : Options) : List Text :=
  o.paths ++ (if o.relations.isEmpty then [] else [o.relations])

/-- The first path of a run at which nothing stands. -/
def missing? (files : Files) (o : Options) : Option Text :=
  (given o).find? fun raw => !files.exists? (Path.ofText raw)

/-- The files of a run; a switch for the relations takes precedence over folders. -/
def inputs (s : Settings) (files : Files) (o : Options) : Except PatternFault Inputs :=
  (Inputs.collect files s.scriptPattern s.relationsPattern o.paths).map fun found =>
    if o.relations.isEmpty then found
    else { found with relations := some (Path.ofText o.relations) }

/-- What the files of a run hold: the scripts, and the stated relations if there are any. -/
def texts (files : Files) (i : Inputs) : Except FileFault (List Text × Option Text) := do
  let scripts ← i.scripts.mapM files.read
  let stated ← i.relations.mapM files.read
  return (scripts, stated)

/-- What a run tells before it parses its scripts. -/
def announcement (i : Inputs) : Text :=
  "🔍 Parsing ".toList ++ Text.ofNat i.scripts.length ++ " SQL file(s)...\n".toList

/-- What a run tells about its model. -/
def summary (i : Inputs) (m : Model) : Text :=
  "✅ Found ".toList ++ Text.ofNat m.tables.length ++ " table(s)\n".toList
    ++ m.tables.flatMap (fun t => "   - ".toList ++ t.name ++ ['\n'])
    ++ (match i.relations with
        | some path =>
          "   - ".toList ++ Text.ofNat m.relations.length
            ++ " annotated relationship(s) from ".toList ++ path.render ++ ['\n']
        | none => [])

/-- The model of some files. All of them are read before the first script is parsed. -/
def build (files : Files) (i : Inputs) (readers : Readers := {}) : Filing Model := do
  let (scripts, stated) ← texts files i
  tell (announcement i)
  let m ← (Model.ofTexts scripts stated readers).mapError Breakdown.script
  tell (summary i m)
  return m

/-- Saves a diagram where a file is named for it. -/
def deliver (s : Settings) (files : Files) (output diagram : Text) : Filing Unit := do
  if !output.isEmpty then
    save files (Path.ofText output) (s.exported diagram)
    tell ("\n✅ ER diagram saved to: ".toList ++ output ++ ['\n'])

/-- The diagram of some files, which is saved as well if a file is named. -/
def convert (s : Settings) (files : Files) (i : Inputs) (output : Text) (readers : Readers := {}) :
    Filing Text := do
  let m ← build files i readers
  deliver s files output m.diagram
  return m.diagram

/-- Names in the capitals of log levels that stand for something else, with what is told of them. -/
def foreignLevels : List (String × String) := [
  ("BASIC_FORMAT", "Unknown level: '%(levelname)s:%(name)s:%(message)s'"),
  ("_STYLES", "Level not an integer or a valid string: \x7b"
    ++ "'%': (<class 'logging.PercentStyle'>, '%(levelname)s:%(name)s:%(message)s'), "
    ++ "'\x7b': (<class 'logging.StrFormatStyle'>, '\x7blevelname\x7d:\x7bname\x7d:\x7bmessage\x7d'), "
    ++ "'$': (<class 'logging.StringTemplateStyle'>, "
    ++ "'$\x7blevelname\x7d:$\x7bname\x7d:$\x7bmessage\x7d')\x7d")]

/-- Why a log cannot be set up with a level. Names of no level stand for the ordinary one. -/
def levelFault? (level : Text) : Option Text :=
  (foreignLevels.find? fun entry => entry.1.toList == Text.upper level).map (·.2.toList)

/-- Sets up the log, unless one is there already. -/
def setUpLog (logged : Bool) (level : Text) : Running Unit :=
  match levelFault? level with
  | some message => if logged then return else throw (.level message)
  | none => return

/-- The end of a run: its diagram is shown, or it tells why there is none. -/
def conclude : Except FileFault Text → Running Nat
  | .error fault => do
    if !fault.isCaught then throw (.file fault)
    tell ("\n❌ Error: ".toList ++ fault.message ++ ['\n'])
    return 1
  | .ok diagram => do
    display (diagram ++ ['\n'])
    return 0

/-- A run with given options once the log is set up, and its exit code. -/
def runWith (s : Settings) (files : Files) (o : Options) (readers : Readers := {}) :
    Running Nat := do
  match missing? files o with
  | some raw =>
    tell ("❌ Error: File not found: ".toList ++ raw ++ ['\n'])
    return 1
  | none =>
    let i ← (inputs s files o).mapError Breakdown.pattern
    conclude (← (convert s files i o.output readers).run)

/-- A run with given options. -/
def start (s : Settings) (files : Files) (o : Options) (readers : Readers := {})
    (logged : Bool := false) : Running Nat := do
  setUpLog logged (o.logLevel.getD s.logLevel)
  runWith s files o readers

/-- A run with given arguments, unless they start none: its exit code or what breaks it off, and
what it has done until then. -/
def run (s : Settings) (files : Files) (args : List Text) (readers : Readers := {})
    (logged : Bool := false) : Except Halt (Except Breakdown Nat × Session) :=
  (Options.ofArguments args).map fun o => (start s files o readers logged).run {}

end SchemaDiagram.CommandLine
