import SchemaDiagram.Text.Blank
import SchemaDiagram.Text.Case
import SchemaDiagram.Text.Line
import SchemaDiagram.Text.Word

/-! Relations that are written down line by line beside the scripts. -/
namespace SchemaDiagram

/-- A named relation from a column of a child table to a column of its parent. -/
structure Relation where
  name : Text
  child : Text
  childColumn : Text
  parent : Text
  parentColumn : Text
  cardinality : Text := []
deriving DecidableEq

namespace Relation

/-- A parent has many children when the cardinality says so. -/
def isMany (a : Relation) : Bool := Text.occursIn "many".toList (Text.lower a.cardinality)

/-- Two words with a dot between them, and what follows. -/
def dotted? (t : Text) : Option (Text × Text × Text) := do
  let (table, t) ← Text.word? t
  let t ← Text.after? ['.'] t
  let (column, t) ← Text.word? t
  some (table, column, t)

/-- The relation of one line: `Ref name: child.column > parent.column // cardinality`. -/
def ofLine? (line : Text) : Option Relation := do
  let t ← Text.gap? (← Text.after? "Ref".toList line)
  let (name, t) ← Text.word? t
  let t ← Text.gap? (← Text.after? [':'] t)
  let (child, childColumn, t) ← dotted? t
  let t ← Text.after? ['>'] (Text.skipBlanks t)
  let (parent, parentColumn, t) ← dotted? (Text.skipBlanks t)
  let rest ← Text.after? "//".toList (Text.skipBlanks t)
  if rest.isEmpty then none
  else some { name, child, childColumn, parent, parentColumn, cardinality := Text.trim rest }

/-- The relations of a text, in the order of its lines; other lines are passed over. -/
def ofText (t : Text) : List Relation := (Text.lines t).filterMap ofLine?

end Relation
end SchemaDiagram
