import SchemaDiagram.Postgres.Target

/-! The grammar of column lists: columns, their constraints, and constraints of the table. -/
namespace SchemaDiagram.Postgres.Reading

/-- Options of an identity column, in their fixed order. -/
def identityOptions : Reading Unit := do
  let start ← words ["START", "WITH"]
  if start then let _ ← need? value?
  if ← words ["INCREMENT", "BY"] then let _ ← need? value?
  if ← word "MINVALUE" then let _ ← need? value?
  if ← word "MAXVALUE" then let _ ← need? value?
  if !(← word "CYCLE") then let _ ← words ["NO", "CYCLE"]
  if !start && (← sees (·.kind == .number)) then
    let _ ← listed value? (← get).length.succ

/-- What follows `GENERATED`. -/
def generated : Reading Unit := do
  if ← words ["BY", "DEFAULT"] then let _ ← words ["ON", "NULL"]
  else let _ ← word "ALWAYS"
  let _ ← word "AS"
  let identity ← word "IDENTITY"
  if ← sign "(" then
    if identity then identityOptions else let _ ← expression?
    need (sign ")")
  let _ ← word "STORED"

/-- What follows `UNIQUE`: the columns, if they are given. -/
def unique : Reading (List Text) := do
  let _ ← oneOf ["KEY", "INDEX"]
  let _ ← words ["NULLS", "NOT", "DISTINCT"]
  let columns ← if ← sees (·.isSign "(") then enclosed typedColumn? else pure []
  if ← word "USING" then let _ ← anyName?
  if ← words ["ON", "CONFLICT"] then
    need (oneOf ["ABORT", "FAIL", "IGNORE", "REPLACE", "ROLLBACK"])
  keyOptions
  return columns

/-- What follows `PRIMARY KEY`: the columns, or none where it only marks a column. -/
def primaryKey : Reading (Option (List Text)) := do
  let _ ← oneOf ["ASC", "DESC"]
  if ← sees (·.isSign "(") then
    let columns ← enclosed (keyColumn? isName)
    indexOptions
    keyOptions
    return some columns
  else
    keyOptions
    return none

/-- A change to which a foreign key reacts. -/
def reaction : Reading Bool := do
  if ← word "ON" then
    need (oneOf ["DELETE", "UPDATE"])
    if !(← words ["NO", "ACTION"]) then
      if ← word "SET" then let _ ← oneOf ["NULL", "DEFAULT"]
      else modify (·.drop 1)
    return true
  else return false

/-- What follows `FOREIGN KEY`. -/
def foreignKey : Reading TableConstraint := do
  let columns ← if ← sees (·.isWord "REFERENCES") then pure [] else enclosed anyName?
  let target ← if ← word "REFERENCES" then some <$> target else pure none
  repeated reaction (← get).length
  keyOptions
  return .foreignKey (columns.map (·.text)) target

/-- What follows `CHECK`. -/
def check : Reading Unit := do
  need (sign "(")
  let _ ← group
  let _ ← word "ENFORCED"

/-- What follows `LIKE`. -/
def likeTable : Reading Unit := do
  let _ ← target
  repeated (do
    if ← oneOf ["INCLUDING", "EXCLUDING"] then
      let _ ← need? anyName?
      return true
    else return false) (← get).length

/-- Takes a keyword that starts a constraint of a column. -/
def keyword (k : String) : Reading Bool := return (← take? (·.spells k)).isSome

/-- A constraint that no diagram shows, where one is there. -/
def plainConstraint : Reading Bool := do
  if ← keyword "CHECK" then check; return true
  else if ← keyword "COLLATE" then
    let _ ← tableName
    return true
  else if ← keyword "COMMENT" then
    let _ ← need? (take? (·.kind == .string))
    return true
  else if ← keyword "GENERATED" then generated; return true
  else if (← keyword "AUTO_INCREMENT") || (← keyword "AUTOINCREMENT") || (← keyword "IDENTITY") then
    if ← sign "(" then let _ ← group
    return true
  else if ← keyword "ON" then
    if ← word "UPDATE" then
      let _ ← need? name?
      if ← sign "(" then let _ ← group
    else let _ ← need? anyName?
    return true
  else if ← words ["FOREIGN", "KEY"] then
    let _ ← foreignKey
    return true
  else if ← words ["CHARACTER", "SET"] then
    let _ ← need? anyName?
    return true
  else if ← keyword "LIKE" then likeTable; return true
  else if ← keyword "WITH" then
    need (sign "(")
    let _ ← group
    return true
  else return false

/-- A constraint of a column. -/
def columnConstraint? : Reading (Option ColumnConstraint) := do
  let named ← word "CONSTRAINT"
  if named then let _ ← need? anyName?
  if ← words ["NOT", "NULL"] then return some (.nullable false)
  else if ← keyword "NULL" then return some (.nullable true)
  else if ← words ["PRIMARY", "KEY"] then
    return some (if (← primaryKey).isNone then .primaryKey else .other)
  else if ← keyword "UNIQUE" then
    let _ ← unique
    return some .unique
  else if ← keyword "DEFAULT" then return some (.defaultValue (← need? value?))
  else if ← keyword "REFERENCES" then return some (.references (← target))
  else if ← plainConstraint then return some .other
  else if named then failure
  else return none

/-- Takes what is there, as often as it is there. -/
def many (r : Reading (Option α)) : Nat → Reading (List α)
  | 0 => return []
  | fuel + 1 => do
    match ← r with
    | some a => return a :: (← many r fuel)
    | none => return []

/-- The expression of a computed column. -/
def computed (typed : Bool) : Reading Bool := do
  match ← get with
  | t :: p :: _ =>
    if t.isWord "AS" && (!typed || p.isSign "(") then
      modify (·.drop 1)
      let _ ← need? expression?
      let _ ← oneOf ["STORED", "VIRTUAL", "PERSISTED"]
      return true
    else return false
  | _ => return false

/-- What follows the name of a column; a name alone declares none. -/
def columnOf (name : Text) : Reading Element := do
  let type ← typeName? true
  let computed ← computed type.isSome
  let constraints ← many columnConstraint? (← get).length
  if type.isNone && !computed && constraints.isEmpty then return .constraint .other
  else return .column name type constraints

/-- A constraint of the table that needs no name. -/
def tableConstraint? : Reading (Option TableConstraint) := do
  if ← words ["PRIMARY", "KEY"] then
    return some ((← primaryKey).elim .other .primaryKey)
  else if ← words ["FOREIGN", "KEY"] then return some (← foreignKey)
  else if ← word "UNIQUE" then return some (.unique (← unique))
  else if ← word "CHECK" then check; return some .other
  else if ← word "EXCLUDE" then indexOptions; return some .other
  else if ← word "LIKE" then likeTable; return some .other
  else return none

/-- A constraint under a name. -/
def namedConstraint? : Reading (Option TableConstraint) := do
  match ← tableConstraint? with
  | some c => return some c
  | none => return (← columnConstraint?).map fun _ => .other

/-- A constraint of the table, with its name or without. -/
def constraint? : Reading (Option Element) := do
  if ← word "CONSTRAINT" then
    let name ← need? anyName?
    match ← many namedConstraint? (← get).length with
    | [] => failure
    | cs => return some (.named name.text cs)
  else return (← tableConstraint?).map .constraint

/-- A column, where a token starts one. -/
def column? : Reading (Option Element) := do
  match ← take? isAnyName with
  | some t =>
    if ← sign "(" then let _ ← group
    return some (← columnOf t.text)
  | none =>
    if ← sign "(" then
      let _ ← group
      return some (← columnOf [])
    else return none

/-- An element of a column list. -/
def element? : Reading (Option Element) := do
  match ← constraint? with
  | some e => return some e
  | none => column?

end SchemaDiagram.Postgres.Reading
