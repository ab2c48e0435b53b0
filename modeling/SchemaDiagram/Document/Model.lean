import SchemaDiagram.Batch
import SchemaDiagram.Document.Basic

/-! Tables, keys and relations as documents. -/
namespace SchemaDiagram

/-- A record of named values. -/
def Document.record (fields : List (String × Document)) : Document :=
  .object (fields.map fun field => (field.1.toList, field.2))

def Reference.document (r : Reference) : Document :=
  .record [("table", .string r.table), ("column", .string r.column)]

def Column.document (c : Column) : Document :=
  .record [("name", .string c.name), ("type", .string c.type), ("isPK", .bool c.isPrimary),
    ("isFK", .bool c.isForeign), ("isUnique", .bool c.isUnique), ("nullable", .bool c.nullable),
    ("default", .ofText? c.defaultValue),
    ("references", (c.reference.map Reference.document).getD .null)]

def Table.document (t : Table) : Document :=
  .record [("name", .string t.name), ("columns", .array (t.columns.map Column.document))]

def Relation.document (a : Relation) : Document :=
  .record [("name", .string a.name), ("from", .string a.child), ("fromAttr", .string a.childColumn),
    ("to", .string a.parent), ("toAttr", .string a.parentColumn), ("type", .string a.cardinality)]

/-- A model with its diagram. -/
def Model.document (m : Model) : Document :=
  .record [("diagram", .string m.diagram), ("tables", .array (m.tables.map Table.document)),
    ("relationships", .array (m.relations.map Relation.document))]

end SchemaDiagram
