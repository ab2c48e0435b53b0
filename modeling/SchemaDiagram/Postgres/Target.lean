import SchemaDiagram.Postgres.Expression.Reading
import SchemaDiagram.Postgres.Statement

/-! Tables, columns and options as keys and references name them. -/
namespace SchemaDiagram.Postgres.Reading

/-- The last part of a name with dots in it, which has to be there. -/
def tableName : Reading Text := do
  let part := take? fun t => isName t || t.kind == .string
  let first ← need? part
  last part first (← get).length
where
  last (part : Reading (Option Token)) (t : Token) : Nat → Reading Text
    | 0 => return t.text
    | fuel + 1 => do
      if ← sign "." then last part (← need? part) fuel else return t.text

/-- Names in an expression, with the number of parentheses open around each. -/
def namesIn (depth : Nat) : List Token → List (Nat × Text)
  | [] => []
  | t :: ts =>
    if t.isSign "(" then namesIn (depth + 1) ts
    else if t.isSign ")" then namesIn (depth - 1) ts
    else if isName t && !bareValues.any (fun entry => t.isWord entry.1)
        && !ts.head?.any (·.isSign "(") then
      (depth, t.text) :: namesIn depth ts
    else namesIn depth ts

/-- The first of the names with the fewest parentheses around them. -/
def outermost : List (Nat × Text) → Option (Nat × Text)
  | [] => none
  | found :: others =>
    match outermost others with
    | some other => if other.1 < found.1 then some other else some found
    | none => some found

/-- The column that an expression is about: the outermost name in it. -/
def subject (function : Text) (inner : List Token) : Text :=
  ((outermost (namesIn 0 inner)).map (·.2)).getD function

/-- A column of a key, by its name or by an expression over it. -/
def keyColumn? (test : Token → Bool) : Reading (Option Text) := do
  match ← take? test with
  | some t =>
    if ← sign "(" then return some (subject t.text (← group)) else return some t.text
  | none => if ← sign "(" then return some (subject [] (← group)) else return none

/-- A column of a key that may have a type after it. -/
def typedColumn? : Reading (Option Text) := do
  match ← keyColumn? isAnyName with
  | some name => do
    let _ ← typeName? true
    return some name
  | none => return none

/-- What happens to a row when the row it points at changes. -/
def action : Reading Bool := do
  if ← words ["NO", "ACTION"] then return true
  else if ← words ["SET", "NULL"] then return true
  else if ← words ["SET", "DEFAULT"] then return true
  else oneOf ["CASCADE", "RESTRICT"]

/-- An option of a key. -/
def keyOption : Reading Bool := do
  if ← word "ON" then
    let _ ← anyName?
    need action
    return true
  else
    let phrases := [["NOT", "ENFORCED"], ["MATCH", "FULL"], ["MATCH", "PARTIAL"],
      ["MATCH", "SIMPLE"], ["INITIALLY", "DEFERRED"], ["INITIALLY", "IMMEDIATE"],
      ["USING", "BTREE"], ["USING", "HASH"], ["DEFERRABLE"], ["NORELY"], ["RELY"]]
    let ts ← get
    match phrases.find? (startsWith · ts) with
    | some ws => words ws
    | none => return false

/-- Takes something as often as it is there. -/
def repeated (r : Reading Bool) : Nat → Reading Unit
  | 0 => return ()
  | fuel + 1 => do if ← r then repeated r fuel

def keyOptions : Reading Unit := do repeated keyOption (← get).length

/-- What follows `REFERENCES`. -/
def target : Reading Target := do
  let _ ← word "ONLY"
  let table ← tableName
  let _ ← sign "*"
  let columns ← if ← sees (·.isSign "(") then enclosed typedColumn? else pure []
  keyOptions
  return { table, columns }

/-- What follows the columns of an index. -/
def indexOptions : Reading Unit := do
  if ← word "USING" then let _ ← anyName?
  if ← sign "(" then let _ ← group
  if ← word "INCLUDE" then
    let _ ← enclosed anyName?
  if ← word "WITH" then
    need (sign "(")
    let _ ← group
  if ← words ["USING", "INDEX", "TABLESPACE"] then let _ ← anyName?
  if ← word "WHERE" then let _ ← need? expression?

end SchemaDiagram.Postgres.Reading
