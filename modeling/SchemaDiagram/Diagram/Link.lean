import SchemaDiagram.Schema.Table

/-! Links from the foreign key columns of a schema to their parents. -/
namespace SchemaDiagram

/-- A foreign key column and what it points at; one to one when a child is the only one. -/
structure Link where
  child : Text
  childColumn : Text
  parent : Text
  parentColumn : Text
  oneToOne : Bool
deriving DecidableEq

/-- A unique column, or the only primary key column, has one row for each value. -/
def Table.isSingular (t : Table) (c : Column) : Bool :=
  c.isUnique || (c.isPrimary && t.primaryColumns.length == 1)

/-- The links of a table, in the order of its columns. -/
def Table.links (t : Table) : List Link :=
  (t.columns.filter (·.isForeign)).filterMap fun c => c.reference.map fun r =>
    { child := t.name, childColumn := c.name, parent := r.table, parentColumn := r.column
      oneToOne := t.isSingular c }

end SchemaDiagram
