import SchemaDiagram.Postgres.CreateTable

/-! `ALTER` statements: the columns and constraints that they add to a table. -/
namespace SchemaDiagram.Postgres.Reading

/-- Whether the next tokens start a constraint that can be added. -/
def seesConstraint : Reading Bool := do
  match ← get with
  | t :: ts =>
    return t.isWord "CONSTRAINT" || t.isWord "UNIQUE" || t.isWord "INDEX"
      || startsWith ["FOREIGN", "KEY"] (t :: ts) || startsWith ["PRIMARY", "KEY"] (t :: ts)
  | [] => return false

/-- A column that is added; a name alone is no column. -/
def addedColumn? : Reading (Option Element) := fun ts =>
  let read : Reading (Option Element) := do
    let _ ← word "COLUMN"
    ifNotExists
    column?
  match read ts with
  | some (some (.column name type cs), rest) => some (some (.column name type cs), rest)
  | some _ => some (none, ts)
  | none => none

/-- One addition; what cannot be read as one is left. -/
def addition? : Reading (Option Element) := do
  let add ← word "ADD"
  if ← seesConstraint then constraint?
  else if !add then return none
  else
    match ← addedColumn? with
    | some c =>
      if ← oneOf ["FIRST", "AFTER"] then let _ ← name?
      return some c
    | none => return none

/-- What follows `ALTER`. Additions count when they make up the whole statement. -/
def alter : Reading Statement := do
  if !(← oneOf ["TABLE", "INDEX", "VIEW"]) then skipAll; return .other
  let _ ← words ["IF", "EXISTS"]
  let _ ← word "ONLY"
  let name ← tableName
  if ← sees (·.isWord "ADD") then
    let additions ← listed addition? (← get).length.succ
    let _ ← words ["NOT", "VALID"]
    if (← get).isEmpty then return .alterTable name additions
  skipAll
  return .other

end SchemaDiagram.Postgres.Reading
