import SchemaDiagram.Text.Case

/-! Columns of a table. -/
namespace SchemaDiagram

/-- The column of a table that a foreign key points at. -/
structure Reference where
  table : Text
  column : Text
deriving DecidableEq

/-- The column that a reference without columns means. -/
def impliedColumn : Text := "id".toList

/-- A column with its declared type and its constraints. -/
structure Column where
  name : Text
  type : Text
  isPrimary : Bool := false
  isUnique : Bool := false
  nullable : Bool := true
  defaultValue : Option Text := none
  reference : Option Reference := none
  /-- The column is a foreign key. -/
  isForeign : Bool := reference.isSome
deriving DecidableEq

/-- Names are the same when they agree in lower case. -/
def sameName (a b : Text) : Bool := Text.lower a == Text.lower b

namespace Column

def markPrimary (c : Column) : Column := { c with isPrimary := true, nullable := false }

def markUnique (c : Column) : Column := { c with isUnique := true }

/-- Makes a foreign key of a column. -/
def pointAt (table column : Text) (c : Column) : Column :=
  { c with isForeign := true, reference := some ⟨table, column⟩ }

end Column
end SchemaDiagram
