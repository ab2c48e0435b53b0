import SchemaDiagram.Postgres.AlterTable
import SchemaDiagram.Schema.Basic
import SchemaDiagram.Sql.Script

/-!
Whole PostgreSQL scripts: their statements, and what these declare. A script is read as a whole
or rejected as a whole.
-/
namespace SchemaDiagram.Postgres

namespace Reading

/-- Statements that are passed over whatever they hold. -/
def opaqueStarts : List String := [
  "CALL", "EXPLAIN", "PREPARE", "VACUUM", "DO", "DECLARE", "EXEC", "EXECUTE", "FETCH", "SHOW",
  "RENAME", "REFRESH", "REINDEX", "RESET", "OPTIMIZE", "SET", "GRANT", "REVOKE"]

/-- Statements that are passed over when their parentheses are closed. -/
def queryStarts : List String := [
  "SELECT", "WITH", "INSERT", "UPDATE", "DELETE", "MERGE", "COPY", "TRUNCATE", "VALUES",
  "ANALYZE", "DESCRIBE", "DESC", "USE", "KILL", "LOAD", "PRAGMA", "CACHE", "UNCACHE", "PIVOT",
  "UNPIVOT"]

/-- Kinds of things that `DROP` and `COMMENT` know. -/
def kinds : List String := [
  "TABLE", "VIEW", "INDEX", "SCHEMA", "SEQUENCE", "DATABASE", "FUNCTION", "PROCEDURE", "COLUMN",
  "CONSTRAINT"]

/-- What follows `DROP`. -/
def drop : Reading Unit := do
  let _ ← oneOf ["TEMPORARY", "TEMP"]
  let _ ← word "MATERIALIZED"
  if ← oneOf kinds then
    let _ ← word "CONCURRENTLY"
    let _ ← words ["IF", "EXISTS"]
    let _ ← tableName
    if ← word "ON" then let _ ← tableName
    if ← sign "(" then let _ ← group
    let _ ← oneOf ["CASCADE", "RESTRICT"]
    let _ ← word "CONSTRAINTS"
    let _ ← word "PURGE"
  else skipAll

/-- What follows `COMMENT`. -/
def commentOn : Reading Unit := do
  let _ ← words ["IF", "EXISTS"]
  let _ ← word "ON"
  let _ ← word "MATERIALIZED"
  if (← word "TABLE") || (← word "COLUMN") then let _ ← tableName
  else if ← oneOf kinds then
    let _ ← need? anyName?
    if ← sign "(" then let _ ← group
  else skipAll; return
  let _ ← word "IS"
  let _ ← need? (take? (·.kind == .string))

/-- An expression that stands as a statement, with a name for it. -/
def loneExpression : Reading Unit := do
  let _ ← need? expression?
  if ← word "AS" then
    let _ ← need? anyName?
  else let _ ← name?

/-- A statement, which has to take all tokens. -/
def statement : Reading Statement := do
  if ← word "CREATE" then create
  else if ← word "ALTER" then alter
  else
    if (← get).isEmpty then return .other
    else if ← oneOf opaqueStarts then skipAll
    else if ← oneOf queryStarts then
      if (← get).any (·.isWord "\x60") then failure
      skipBalanced
    else if ← oneOf ["BEGIN", "COMMIT", "ROLLBACK"] then
      if (← get).all (·.kind == .word) then skipAll
    else if ← word "DROP" then drop
    else if ← word "COMMENT" then commentOn
    else loneExpression
    return .other

end Reading

/-- The statement that some tokens make up, and none where they break the grammar. -/
def Statement.ofTokens? (ts : List Token) : Option Statement :=
  match Reading.statement ts with
  | some (s, []) => some s
  | _ => none

/-- The statements of a script, and none where one of them breaks the grammar. -/
def statements? (script : Text) : Option (List Statement) := do
  (Token.statements (← Token.all? script)).mapM Statement.ofTokens?

/-- The type of a column: as the script spells it, else in its one spelling. -/
def typeOf (types : List (Text × Text)) (name : Text) (type : Option TypeName) : Text :=
  match types.lookup (Text.lower name), type with
  | some spelling, some type => if spelling == Sql.unknownType then type.render else spelling
  | some spelling, none => spelling
  | none, some type => type.render
  | none, none => Sql.unknownType

/-- A column after one of its constraints; later ones win. -/
def constrain (c : Column) : ColumnConstraint → Column
  | .primaryKey => c.markPrimary
  | .unique => c.markUnique
  | .nullable allowed => { c with nullable := allowed }
  | .defaultValue value => { c with defaultValue := some value.render }
  | .references target => c.pointAt target.table (target.columns.headD impliedColumn)
  | .other => c

/-- Adds a column that an element declares. -/
def declareColumn (types : List (Text × Text)) (t : Table) : Element → Table
  | .column name type constraints =>
    t.declare (constraints.foldl constrain { name, type := typeOf types name type })
  | .constraint _ | .named _ _ => t

/-- The constraints of the table that an element holds. -/
def Element.constraints : Element → List TableConstraint
  | .column _ _ _ => []
  | .constraint c => [c]
  | .named _ cs => cs

/-- The foreign key of a table. -/
def foreignKeyOf (table : Text) (columns : List Text) (target : Option Target) : ForeignKey :=
  { table, columns, refTable := (target.map (·.table)).getD []
    refColumns := (target.map (·.columns)).getD [] }

/-- A table after one of its constraints. -/
def applyConstraint (t : Table) : TableConstraint → Table
  | .primaryKey columns => t.applyPrimary columns
  | .unique columns => t.applyUnique columns
  | .foreignKey columns target => t.applyForeign (foreignKeyOf t.name columns target)
  | .other => t

/-- The table of a column list: all columns first, then the constraints over them. -/
def tableOf (index : Sql.TypeIndex) (name : Text) (elements : List Element) : Table :=
  let columns := elements.foldl (declareColumn (index.typesOf name)) ⟨name, []⟩
  (elements.flatMap Element.constraints).foldl applyConstraint columns

/-- Constraints that a statement adds, with their names: those without one come first. -/
def additions (elements : List Element) : List (Option Text × TableConstraint) :=
  elements.filterMap (fun
    | .constraint c => some (none, c)
    | _ => none)
  ++ elements.flatMap fun
    | .named name cs => cs.map (some name, ·)
    | _ => []

/-- What one statement adds to the declarations before it. -/
def declareStatement (index : Sql.TypeIndex) (found : Declarations) : Statement → Declarations
  | .createTable name elements =>
    { found with tables := found.tables ++ [tableOf index name elements] }
  | .alterTable name elements =>
    let added := additions elements
    { found with
      primaryKeys := found.primaryKeys ++ added.filterMap fun
        | (_, .primaryKey columns) => some ⟨name, columns⟩
        | _ => none
      foreignKeys := found.foreignKeys ++ added.filterMap fun
        | (constraintName, .foreignKey columns target) =>
          some { foreignKeyOf name columns target with constraintName }
        | _ => none }
  | .other => found

/-- The tables and keys that some statements declare, with the spellings of their types. -/
def declarationsOf (index : Sql.TypeIndex) (ss : List Statement) : Declarations :=
  ss.foldl (declareStatement index) {}

/-- The tables and keys that a PostgreSQL script declares. A script without statements is rejected,
unless reading it breaks off with a message. -/
def declarations (script : Text) (splitter : Sql.Splitter := {})
    (parse? : Text → Option (List Statement) := statements?)
    (breaksOff? : Text → Option Text := fun _ => none) : Except Fault Declarations :=
  match parse? script, breaksOff? script with
  | some ss, _ => (Sql.declaredTypes script splitter).map (declarationsOf · ss)
  | none, none => .error .rejected
  | none, some message => .error (.brokenOff message)

end SchemaDiagram.Postgres
