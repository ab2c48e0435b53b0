import SchemaDiagram.Schema.Table

/-! Keys that are declared apart from their columns and folded into them later. -/
namespace SchemaDiagram

/-- A primary key over columns of a table. -/
structure PrimaryKey where
  table : Text
  columns : List Text
deriving DecidableEq

/-- A foreign key from columns of a table to columns of another one. -/
structure ForeignKey where
  table : Text
  columns : List Text
  refTable : Text
  refColumns : List Text
  constraintName : Option Text := none
deriving DecidableEq

namespace ForeignKey

/-- Pairs children with parents by position; where the parents run out the first serves again. -/
def pairUp (first : Text) : List Text → List Text → List (Text × Text)
  | [], _ => []
  | c :: cs, [] => (c, first) :: pairUp first cs []
  | c :: cs, p :: ps => (c, p) :: pairUp first cs ps

/-- Child and parent columns; without parent columns each child points at the implied one. -/
def pairs (k : ForeignKey) : List (Text × Text) :=
  pairUp (k.refColumns.headD impliedColumn) k.columns k.refColumns

end ForeignKey

namespace Table

/-- Marks the columns of a primary key; other names are passed over. -/
def applyPrimary (t : Table) (columns : List Text) : Table :=
  columns.foldl (fun t name => t.changeColumn name Column.markPrimary) t

/-- Points the children of a foreign key at their parents; later pairs win. -/
def applyForeign (t : Table) (k : ForeignKey) : Table :=
  k.pairs.foldl (fun t pair => t.changeColumn pair.1 (Column.pointAt k.refTable pair.2)) t

/-- A unique key over one column marks it; over several it marks none. -/
def applyUnique (t : Table) : List Text → Table
  | [name] => t.changeColumn name Column.markUnique
  | _ => t

end Table

/-- What one script declares. -/
structure Declarations where
  tables : List Table := []
  foreignKeys : List ForeignKey := []
  primaryKeys : List PrimaryKey := []
deriving DecidableEq

end SchemaDiagram
