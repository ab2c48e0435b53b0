import SchemaDiagram.Schema.Key
import SchemaDiagram.Sql.Scan
import SchemaDiagram.Sql.Target

/-!
Foreign keys added to tables. They are read from one statement, action by action, or searched
for in a whole script.
-/
namespace SchemaDiagram.Sql

/-- Skips the condition that the table exists. -/
def ifExists? (t : Text) : Option Text := Text.keywordGap? "IF" t >>= Text.keywordGap? "EXISTS"

/-- The readings of the start of a statement: the table and the actions, the best one first. -/
def alterHeads (statement : Text) : List (Text × Text) :=
  match Text.keywordGap? "ALTER" statement >>= Text.keywordGap? "TABLE" with
  | none => []
  | some t =>
    ((Text.optionally (Text.keywordGap? "ONLY") t).flatMap (Text.optionally ifExists?)).flatMap
      fun t => (qualified t).filterMap fun (name, rest) =>
        (Text.gap? rest).map (unquote name, ·)

/-- The foreign key that a table gets from a clause. -/
def keyOf (table : Text) (constraintName : Option Text) (clause : KeyClause) : ForeignKey :=
  { table, columns := clause.columns, refTable := clause.target.table
    refColumns := clause.target.columns, constraintName := constraintName.map unquote }

/-- An action that adds a clause, read by `clause?`, with or without a constraint name. -/
def added? (clause? : Text → Option (KeyClause × Text)) (t : Text) :
    Option ((Option Text × KeyClause) × Text) := do
  let t ← Text.keywordGap? "ADD" t
  let (name, t) := match constraintName? t with
    | some (name, rest) => (some name, rest)
    | none => (none, t)
  let (clause, rest) ← clause? t
  some ((name, clause), rest)

/-- The actions without the semicolon and the blanks at their end. -/
def withoutSemicolon (actions : Text) : Text :=
  match (Text.trimEnd actions).reverse with
  | ';' :: t => t.reverse
  | t => t.reverse

/-- The foreign keys that a statement adds to its table. -/
def alterTable (statement : Text) : List ForeignKey :=
  match alterHeads statement with
  | [] => []
  | (table, actions) :: _ =>
    (parts (withoutSemicolon actions)).filterMap fun action =>
      (added? KeyClause.read? action).map fun ((name, clause), _) => keyOf table name clause

/-- The text up to a semicolon, the end, or a line feed at the end; and what follows it. -/
def untilSemicolon : Text → Text × Text
  | [] => ([], [])
  | ';' :: t => ([], t)
  | ['\n'] => ([], ['\n'])
  | c :: t =>
    let found := untilSemicolon t
    (c :: found.1, found.2)

/-- A statement at the front: its table, its text after the table, and what follows. -/
def alteration? (t : Text) : Option ((Text × Text) × Text) :=
  (alterHeads t).head?.map fun (table, rest) =>
    let found := untilSemicolon rest
    ((table, found.1), found.2)

/-- All foreign keys that statements anywhere in a script add. -/
def alterations (script : Text) : List ForeignKey :=
  (Text.searchAll alteration? 0 script).flatMap fun (table, actions) =>
    (Text.searchAll (added? KeyClause.readFull?) 0 actions).map fun (name, clause) =>
      keyOf table name clause

end SchemaDiagram.Sql
