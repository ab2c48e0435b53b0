import SchemaDiagram.Files.Path
import SchemaDiagram.Files.Pattern
import SchemaDiagram.Text.Line
import SchemaDiagram.Text.Utf8

/-! Trees of files and folders, and what a path leads to from a working folder. -/
namespace SchemaDiagram

inductive FileTree where
  | file (content : List UInt8)
  | folder (entries : List (Text × FileTree))

/-- Why a path cannot be used. -/
inductive FileFault where
  | missing (path : Path)
  | noFolder (path : Path)
  | isFolder (path : Path)
  | unreadable (fault : Utf8.Fault)
  /-- A name holds the character that ends names. -/
  | nullCharacter
deriving DecidableEq

namespace FileFault

/-- A run that meets such a fault ends with an error; the others break it off. -/
def isCaught : FileFault → Bool
  | nullCharacter => false
  | missing _ | noFolder _ | isFolder _ | unreadable _ => true

def message : FileFault → Text
  | missing path => "[Errno 2] No such file or directory: ".toList ++ Text.quoted path.render
  | noFolder path => "[Errno 20] Not a directory: ".toList ++ Text.quoted path.render
  | isFolder path => "[Errno 21] Is a directory: ".toList ++ Text.quoted path.render
  | unreadable fault => fault.message
  | nullCharacter => "embedded null byte".toList

end FileFault

namespace FileTree

def empty : FileTree := folder []

def entries : FileTree → List (Text × FileTree)
  | file _ => []
  | folder entries => entries

def isFolder : FileTree → Bool
  | file _ => false
  | folder _ => true

/-- A folder on the way to a place: its name in the folder above, and itself. -/
abbrev Trail := List (Text × FileTree)

/-- What stands at the end of some names, with the way to it, the last step first. The way back
from the root ends there as well. The path is the one that a fault tells. -/
def walk (path : Path) (trail : Trail) (here : FileTree) :
    List Text → Except FileFault (Trail × FileTree)
  | [] => .ok (trail, here)
  | name :: names =>
    if !here.isFolder then .error (.noFolder path)
    else if name == ['.', '.'] then
      match trail with
      | [] => walk path [] here names
      | (_, above) :: trail => walk path trail above names
    else
      match here.entries.lookup name with
      | some next => walk path ((name, here) :: trail) next names
      | none => .error (.missing path)

mutual
/-- The paths of a folder and of all folders below it; `here` is the path to it. -/
def folders (here : Path) : FileTree → List Path
  | file _ => []
  | folder entries => here :: foldersIn here entries

def foldersIn (here : Path) : List (Text × FileTree) → List Path
  | [] => []
  | (name, t) :: entries => folders (here.child name) t ++ foldersIn here entries
end

/-- Puts content at the end of some names, with the folders on the way. -/
def place (t content : FileTree) : List Text → FileTree
  | [] => content
  | name :: names =>
    let inner := place ((t.entries.lookup name).getD empty) content names
    if (t.entries.lookup name).isSome then
      folder (t.entries.map fun entry => if entry.1 == name then (name, inner) else entry)
    else folder (t.entries ++ [(name, inner)])

end FileTree

/-- The tree from the root, and the names on the way from there to the working folder. -/
structure Files where
  root : FileTree
  here : List Text := []

namespace Files

open FileTree (walk folders)

/-- The names on the way from the root to a path. -/
def names (f : Files) (p : Path) : List Text := if p.root.isEmpty then f.here ++ p.parts else p.parts

/-- What stands at a path. -/
def node (f : Files) (p : Path) : Except FileFault FileTree := (·.2) <$> walk p [] f.root (f.names p)

def exists? (f : Files) (p : Path) : Bool := (f.node p).toOption.isSome

def isFolderAt (f : Files) (p : Path) : Bool := (f.node p).toOption.any (·.isFolder)

def isFileAt (f : Files) (p : Path) : Bool := (f.node p).toOption.any (!·.isFolder)

/-- The text of a file, every line end in it a line feed. -/
def read (f : Files) (p : Path) : Except FileFault Text :=
  match f.node p with
  | .ok (.file content) =>
    match Utf8.decode content with
    | .ok text => .ok (Text.unifyLineEnds text)
    | .error fault => .error (.unreadable fault)
  | .ok (.folder _) => .error (.isFolder p)
  | .error fault => .error fault

/-- The paths that a pattern of several names selects below a folder. -/
def select (f : Files) (here : Path) : List Text → List Path
  | [] => [here]
  | name :: names =>
    if name == ['*', '*'] then
      match f.node here with
      | .ok sub => (folders here sub).flatMap fun p => select f p names
      | .error _ => []
    else if name.any (fun c => c == '*' || c == '?' || c == '[') then
      let found : List (Text × FileTree) := match f.node here with
        | .ok sub => sub.entries.filter fun entry => (Pattern.ofText name).accepts entry.1
        | .error _ => []
      found.flatMap fun entry =>
        if names.isEmpty || entry.2.isFolder then select f (here.child entry.1) names else []
    else if f.exists? (here.child name) then select f (here.child name) names
    else []

/-- The files below a folder that a pattern selects, each once and in order. A pattern that ends in
a slash selects folders only. -/
def search (f : Files) (here : Path) (pattern : Text) : List Path :=
  let names := ['*', '*'] :: Path.partsOf pattern
  if pattern.getLast? == some '/' then []
  else Path.sort ((select f here names).filter f.isFileAt).eraseDups

/-- The names from the root to a file that can be written, in a folder that is there. -/
def writable (f : Files) (p : Path) : Except FileFault (List Text) :=
  match p.parts.getLast? with
  | none => .error (.isFolder p)
  | some name =>
    if p.parts.any (·.contains '\x00') then .error .nullCharacter
    else
      match walk p [] f.root (f.names p).dropLast with
      | .error fault => .error fault
      | .ok (trail, above) =>
        if !above.isFolder then .error (.noFolder p)
        else if name == ['.', '.'] then .error (.isFolder p)
        else if (above.entries.lookup name).any (·.isFolder) then .error (.isFolder p)
        else .ok ((trail.map (·.1)).reverse ++ [name])

/-- The files with a text written to one of them. -/
def write (f : Files) (p : Path) (text : Text) : Except FileFault Files :=
  (f.writable p).map fun names =>
    { f with root := f.root.place (.file (Utf8.encode text)) names }

end Files
end SchemaDiagram
