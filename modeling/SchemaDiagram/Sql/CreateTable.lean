import SchemaDiagram.Fault
import SchemaDiagram.Schema.Key
import SchemaDiagram.Sql.ColumnDefinition
import SchemaDiagram.Sql.Scan

/-! Statements that create a table, read definition by definition. -/
namespace SchemaDiagram.Sql

/-- What a part of a table body declares. -/
inductive PartKind where
  | primaryKey
  | foreignKey
  | unique
  | ignored
  | column
deriving DecidableEq

/-- Skips the name of a constraint where there is one. -/
def skipConstraintName (part : Text) : Text :=
  match constraintName? part with
  | some (_, rest) => rest
  | none => part

/-- An index line: the keyword, a name where there is one, and a list that starts with a name. -/
def isIndexLine (part : Text) : Bool :=
  let t := ((Text.keywordGap? "FULLTEXT" part).or (Text.keywordGap? "SPATIAL" part)).getD part
  match (Text.keyword? "KEY" t).or (Text.keyword? "INDEX" t) with
  | none => false
  | some t =>
    match skipName (Text.skipBlanks t) with
    | '(' :: t =>
      match Text.skipBlanks t with
      | c :: _ => (closer? c).isSome || c == '_' || (Text.capital c).isUpper
      | [] => false
    | _ => false

def partKind (part : Text) : PartKind :=
  let t := skipConstraintName part
  if (Text.keywordGap? "PRIMARY" t >>= Text.keyword? "KEY").isSome then .primaryKey
  else if (Text.keywordGap? "FOREIGN" t >>= Text.keyword? "KEY").isSome then .foreignKey
  else if (Text.wholeKeyword? "UNIQUE" t).isSome then .unique
  else if (Text.wholeKeyword? "CHECK" t).isSome || isIndexLine part then .ignored
  else .column

/-- The names in the first list of a part. -/
def firstList (part : Text) : List Text :=
  match Text.search parenthesised? part with
  | some (list, _) => listedNames list
  | none => []

/-- The foreign key that a part of a table declares. -/
def foreignKey? (table part : Text) : Option ForeignKey :=
  (Text.search KeyClause.read? part).map fun (clause, _) =>
    { table, columns := clause.columns, refTable := clause.target.table
      refColumns := clause.target.columns }

/-- Folds a table constraint into the columns. -/
def applyPart (table : Table) (part : Text) : Table :=
  match partKind part with
  | .primaryKey => table.applyPrimary (firstList part)
  | .foreignKey =>
    match foreignKey? table.name part with
    | some key => table.applyForeign key
    | none => table
  | .unique => table.applyUnique (firstList part)
  | .ignored | .column => table

/-- Adds the column of a part, unless it declares none or repeats a name. -/
def declarePart (table : Table) (part : Text) : Table :=
  match partKind part, column? part with
  | .column, some column => table.declare column
  | _, _ => table

/-- The table of a body: first all columns, then the constraints on them. -/
def tableOf (name : Text) (parts : List Text) : Table :=
  parts.foldl applyPart (parts.foldl declarePart { name })

/-- Skips the keyword for temporary tables. -/
def skipTemporary (t : Text) : Text :=
  ((Text.keywordGap? "TEMPORARY" t).or (Text.keywordGap? "TEMP" t)).getD t

/-- Skips the condition that the table does not exist yet. -/
def skipIfNotExists (t : Text) : Text :=
  (Text.keywordGap? "IF" t >>= Text.keywordGap? "NOT" >>= Text.keywordGap? "EXISTS").getD t

/-- The name of the table that a statement creates, and what follows the opening parenthesis. -/
def createHead? (statement : Text) : Option (Text × Text) := do
  let t ← Text.keywordGap? "CREATE" statement
  let t ← Text.keywordGap? "TABLE" (skipTemporary t)
  let (name, rest) ← (qualified (skipIfNotExists t)).head?
  match Text.skipBlanks rest with
  | '(' :: body => some (unquote name, body)
  | _ => none

/-- The body of a table from a parenthesis at `start` to its match. -/
def tableBody (t : Text) (start : Nat) (name : Text) : Except Fault Text :=
  match bodyAt? t start with
  | some body => .ok body
  | none => .error (.unbalanced name)

/-- The table that a statement creates; other statements create none. -/
def createTable (statement : Text) : Except Fault (Option Table) :=
  match createHead? statement with
  | none => .ok none
  | some (name, rest) =>
    match Scan.body? { depth := 1 } rest with
    | none => .error (.unbalanced name)
    | some (body, _) => .ok (some (tableOf name (parts body)))

end SchemaDiagram.Sql
