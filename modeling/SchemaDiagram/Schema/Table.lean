import SchemaDiagram.Schema.Column

/-! Tables: a name and columns in the order of their declaration. -/
namespace SchemaDiagram

structure Table where
  name : Text
  columns : List Column := []
deriving DecidableEq

namespace Table

/-- The first column of a name, in any letter case. -/
def column? (t : Table) (name : Text) : Option Column :=
  t.columns.find? fun c => sameName c.name name

/-- Changes the first column of a name, and nothing where there is none. -/
def changeColumn (t : Table) (name : Text) (change : Column → Column) : Table :=
  match t.columns.findIdx? fun c => sameName c.name name with
  | some i => { t with columns := t.columns.modify i change }
  | none => t

/-- Adds a column at the end unless one of its name is there. -/
def declare (t : Table) (c : Column) : Table :=
  if (t.column? c.name).isSome then t else { t with columns := t.columns ++ [c] }

def primaryColumns (t : Table) : List Column := t.columns.filter (·.isPrimary)

end Table
end SchemaDiagram
