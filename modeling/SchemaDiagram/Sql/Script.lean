import SchemaDiagram.Sql.AlterTable
import SchemaDiagram.Sql.Comment
import SchemaDiagram.Sql.CreateTable

/-! Whole scripts: their statements, and what these declare. -/
namespace SchemaDiagram.Sql

/-- The most parts that a statement may have. -/
def Statement.sizeLimit : Nat := 10000

/-- Why a statement is not taken apart. -/
def Statement.refusal? (s : Statement) : Option Text :=
  if sizeLimit < s.size then some "Maximum number of tokens exceeded (10000).".toList
  else if s.isTooDeep then some "Maximum grouping depth exceeded (100).".toList
  else none

/-- The statements of a text, or why the first of those that are refused is. -/
def statements (t : Text) : Except Text (List Statement) :=
  match (Statement.ofText t).findSome? Statement.refusal? with
  | some message => .error message
  | none => .ok (Statement.ofText t)

/-- A script without its comments. -/
def withoutRemarks (script : Text) : Except Text Text :=
  (statements script).map fun ss => ss.flatMap Statement.clean

/-- What counts of a statement: its kind and its text. -/
structure Outline where
  kind : Statement.Kind
  text : Text
deriving DecidableEq

def Statement.outline (s : Statement) : Outline := ⟨s.kind, s.text⟩

/-- How a script is taken apart: first its comments go, then its statements are told apart. A
splitter may give up on a text with a message. -/
structure Splitter where
  clean : Text → Except Text Text := withoutRemarks
  split : Text → Except Text (List Outline) := fun t => (statements t).map (·.map Statement.outline)

namespace Splitter

/-- A script without its comments. -/
def cleaned (splitter : Splitter) (script : Text) : Except Fault Text :=
  (splitter.clean script).mapError .unsplit

/-- The statements of a script without its comments. -/
def outlines (splitter : Splitter) (script : Text) : Except Fault (List Outline) :=
  (splitter.clean script >>= splitter.split).mapError .unsplit

end Splitter

/-- What one statement adds to the declarations before it. -/
def declareStatement (found : Declarations) (s : Outline) : Except Fault Declarations :=
  match s.kind with
  | .create => (createTable s.text).map fun table? =>
    { found with tables := found.tables ++ table?.toList }
  | .alter => .ok { found with foreignKeys := found.foreignKeys ++ alterTable s.text }
  | .other => .ok found

/-- The tables and foreign keys that a MySQL or SQLite script declares. -/
def declarations (script : Text) (splitter : Splitter := {}) : Except Fault Declarations := do
  (← splitter.outlines script).foldlM declareStatement {}

/-- The foreign keys that a search through the whole script finds. -/
def recoveredKeys (script : Text) (splitter : Splitter := {}) : Except Fault (List ForeignKey) :=
  (splitter.cleaned script).map alterations

/-- Column types by table and column, names in lower case. -/
abbrev TypeIndex := List (Text × List (Text × Text))

namespace TypeIndex

/-- Adds the types of a table unless one of its name is there. -/
def add (index : TypeIndex) (table : Table) : TypeIndex :=
  if (index.lookup (Text.lower table.name)).isSome then index
  else index ++ [(Text.lower table.name, table.columns.map fun c => (Text.lower c.name, c.type))]

/-- The types of the columns of a table. -/
def typesOf (index : TypeIndex) (table : Text) : List (Text × Text) :=
  (index.lookup (Text.lower table)).getD []

end TypeIndex

/-- The table that a statement creates, if it can be read. -/
def readableTable? (s : Outline) : Option Table :=
  match s.kind, createTable s.text with
  | .create, .ok table? => table?
  | _, _ => none

/-- The spellings of all column types that a script declares; the first table of a name counts. -/
def declaredTypes (script : Text) (splitter : Splitter := {}) : Except Fault TypeIndex := do
  return ((← splitter.outlines script).filterMap readableTable?).foldl TypeIndex.add []

end SchemaDiagram.Sql
