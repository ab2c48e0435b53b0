import SchemaDiagram.Sql.ColumnList

/-! What a foreign key points at, and the clause that declares one. -/
namespace SchemaDiagram.Sql

/-- A table and the columns listed after it, if any. -/
structure Target where
  table : Text
  columns : List Text
deriving DecidableEq

namespace Target

/-- A target with or without its column list. -/
def read? (t : Text) : Option (Target × Text) := do
  let t ← Text.keywordGap? "REFERENCES" t
  let (table, rest) ← (qualified t).head?
  match parenthesised? (Text.skipBlanks rest) with
  | some (list, rest) => some (⟨unquote table, listedNames list⟩, rest)
  | none => some (⟨unquote table, []⟩, rest)

/-- A target with its column list. -/
def readFull? (t : Text) : Option (Target × Text) := do
  let t ← Text.keywordGap? "REFERENCES" t
  (qualified t).findSome? fun (table, rest) => do
    let (list, rest) ← parenthesised? (Text.skipBlanks rest)
    some (⟨unquote table, listedNames list⟩, rest)

end Target

/-- Skips a name with the blanks after it where there is one. -/
def skipName (t : Text) : Text :=
  match name? t with
  | some (_, rest) => Text.skipBlanks rest
  | none => t

/-- The name that the keyword for constraints gives, and what follows with its blanks skipped. -/
def constraintName? (t : Text) : Option (Text × Text) := do
  let t ← Text.keywordGap? "CONSTRAINT" t
  let (name, rest) ← name? t
  let rest ← Text.gap? rest
  some (name, rest)

/-- The children and the target of a foreign key clause. -/
structure KeyClause where
  columns : List Text
  target : Target

namespace KeyClause

/-- A clause whose index may be named and whose parents may be left out. -/
def read? (t : Text) : Option (KeyClause × Text) := do
  let t ← Text.keywordGap? "FOREIGN" t
  let t ← Text.keyword? "KEY" t
  let (list, rest) ← parenthesised? (skipName (Text.skipBlanks t))
  let (target, rest) ← Target.read? (Text.skipBlanks rest)
  some (⟨listedNames list, target⟩, rest)

/-- A clause without index name and with parents. -/
def readFull? (t : Text) : Option (KeyClause × Text) := do
  let t ← Text.keywordGap? "FOREIGN" t
  let t ← Text.keyword? "KEY" t
  let (list, rest) ← parenthesised? (Text.skipBlanks t)
  let (target, rest) ← Target.readFull? (Text.skipBlanks rest)
  some (⟨listedNames list, target⟩, rest)

end KeyClause
end SchemaDiagram.Sql
