import SchemaDiagram.Schema.Key

/-! Schemas: the tables of several scripts in order, and the keys folded into them. -/
namespace SchemaDiagram

/-- The tables found so far; a name may occur more than once. -/
abbrev Schema := List Table

namespace Schema

/-- The place of a table: of the first with exactly this name, else of the first in any case. -/
def position? (s : Schema) (name : Text) : Option Nat :=
  (s.findIdx? (·.name == name)).or (s.findIdx? fun t => sameName t.name name)

def table? (s : Schema) (name : Text) : Option Table := do s[← s.position? name]?

/-- Changes the table of a name, and nothing where there is none. -/
def changeTable (s : Schema) (name : Text) (change : Table → Table) : Schema :=
  match s.position? name with
  | some i => s.modify i change
  | none => s

/-- Folds primary keys into the tables they name. -/
def applyPrimaryKeys (s : Schema) (keys : List PrimaryKey) : Schema :=
  keys.foldl (fun s k => s.changeTable k.table fun t => t.applyPrimary k.columns) s

/-- Folds foreign keys into the tables they name; later keys win. -/
def applyForeignKeys (s : Schema) (keys : List ForeignKey) : Schema :=
  keys.foldl (fun s k => s.changeTable k.table fun t => t.applyForeign k) s

end Schema
end SchemaDiagram
