import SchemaDiagram.Postgres.Element

/-!
`CREATE` statements. A table counts when nothing but known options follows its column list;
a statement that goes on in any other way declares nothing.
-/
namespace SchemaDiagram.Postgres.Reading

/-- Drops the rest of a statement. -/
def skipAll : Reading Unit := set ([] : List Token)

/-- Whether every parenthesis is closed, given how many are open. -/
def isBalanced (depth : Nat) : List Token → Bool
  | [] => depth == 0
  | t :: ts =>
    if t.isSign "(" then isBalanced (depth + 1) ts
    else if t.isSign ")" then
      match depth with
      | 0 => false
      | depth + 1 => isBalanced depth ts
    else isBalanced depth ts

/-- Drops the rest of a statement, in which all parentheses have to be closed. -/
def skipBalanced : Reading Unit := do
  if isBalanced 0 (← get) then skipAll else failure

/-- The value of an option, with or without an equals sign. -/
def optionValue : Reading Unit := do
  let _ ← sign "="
  let _ ← need? (take? fun t => t.kind != .sign)

/-- A key and a value with an equals sign between them. -/
def assignment : Reading Bool := do
  return (← attempt? do
    let _ ← need? (take? isName)
    need (sign "=")
    let _ ← need? value?
    return some ()).isSome

/-- An option after the column list of a table. -/
def tableOption : Reading Bool := do
  if ← oneOf ["ENGINE", "AUTO_INCREMENT", "CHARSET", "COLLATE", "COMMENT", "ROW_FORMAT"] then
    optionValue
    return true
  else if ← words ["CHARACTER", "SET"] then optionValue; return true
  else if ← words ["DEFAULT", "CHARACTER", "SET"] then optionValue; return true
  else if ← words ["DEFAULT", "CHARSET"] then optionValue; return true
  else if ← words ["DEFAULT", "COLLATE"] then optionValue; return true
  else if ← word "INHERITS" then
    need (sign "(")
    let _ ← group
    return true
  else if ← opens "WITH" then
    let _ ← group
    return true
  else if ← words ["PARTITION", "BY"] then
    let _ ← name?
    if ← sign "(" then let _ ← group
    return true
  else if ← word "USING" then
    let _ ← need? anyName?
    return true
  else if ← word "STRICT" then return true
  else if ← word "ON" then
    if !(← words ["COMMIT", "PRESERVE", "ROWS"]) && !(← words ["COMMIT", "DELETE", "ROWS"]) then
      let _ ← need? anyName?
    return true
  else assignment

/-- `IF NOT EXISTS` or the words of it that are there. -/
def ifNotExists : Reading Unit := do
  if ← word "IF" then
    if ← word "NOT" then let _ ← word "EXISTS"

/-- The column list of a table, and none where a query follows. -/
def elements? : Reading (Option (List Element)) := do
  match ← get with
  | p :: t :: _ =>
    if p.isSign "(" then
      if t.isSign "(" then failure
      else if t.isWord "SELECT" || t.isWord "WITH" then skipBalanced; return none
      else some <$> enclosed element?
    else return none
  | [p] => if p.isSign "(" then failure else return none
  | [] => return none

/-- What follows `CREATE TABLE`. -/
def createTable : Reading Statement := do
  ifNotExists
  let name ← tableName
  let found ← elements?
  repeated tableOption (← get).length
  let declared := match found with
    | some elements => .createTable name elements
    | none => .other
  match ← get with
  | [] => return declared
  | t :: _ =>
    if t.isWord "AS" then skipBalanced; return declared
    else if t.isSign ")" || t.isSign "," then failure
    else skipAll; return .other

/-- Words that may stand between `CREATE` and what is created. -/
def createPrefixes : List String :=
  ["UNLOGGED", "TEMP", "TEMPORARY", "GLOBAL", "EXTERNAL", "TRANSIENT", "VOLATILE", "MATERIALIZED"]

/-- What follows `CREATE`. -/
def create : Reading Statement := do
  let _ ← words ["OR", "REPLACE"]
  let _ ← word "UNIQUE"
  repeated (oneOf createPrefixes) (← get).length
  if ← word "TABLE" then createTable
  else if ← oneOf ["INDEX", "VIEW", "FUNCTION", "PROCEDURE", "SCHEMA", "SEQUENCE", "DATABASE"] then
    if (← get).isEmpty then failure
    skipBalanced
    return .other
  else skipAll; return .other

end SchemaDiagram.Postgres.Reading
