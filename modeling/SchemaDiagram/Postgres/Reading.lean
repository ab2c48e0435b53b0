import SchemaDiagram.Postgres.Token

/-!
Reading tokens from the front of a statement. A reading that fails rejects the script; one that
finds nothing answers `none` or `false` and leaves the tokens as they are.
-/
namespace SchemaDiagram.Postgres

abbrev Reading := StateT (List Token) Option

namespace Reading

/-- Whether the next token passes a test. -/
def sees (test : Token → Bool) : Reading Bool := return (← get).head?.any test

/-- Takes the next token where it passes a test. -/
def take? (test : Token → Bool) : Reading (Option Token) := do
  match ← get with
  | t :: ts => if test t then set ts; return some t else return none
  | [] => return none

/-- Takes a keyword, given by its capitals. -/
def word (k : String) : Reading Bool := return (← take? (·.isWord k)).isSome

def sign (s : String) : Reading Bool := return (← take? (·.isSign s)).isSome

/-- Takes one of some keywords. -/
def oneOf (ks : List String) : Reading Bool :=
  return (← take? fun t => ks.any t.isWord).isSome

/-- Whether the next tokens are some keywords. -/
def startsWith : List String → List Token → Bool
  | [], _ => true
  | _ :: _, [] => false
  | k :: ks, t :: ts => t.isWord k && startsWith ks ts

/-- Takes some keywords that stand one after the other, all or none of them. -/
def words (ks : List String) : Reading Bool := do
  let ts ← get
  if startsWith ks ts then set (ts.drop ks.length); return true else return false

/-- Takes what has to be there. -/
def need (r : Reading Bool) : Reading Unit := do
  if ← r then return () else failure

/-- Takes what has to be there. -/
def need? (r : Reading (Option α)) : Reading α := do
  match ← r with
  | some a => return a
  | none => failure

/-- Takes back a reading that fails. -/
def attempt? (r : Reading (Option α)) : Reading (Option α) := fun ts =>
  match r ts with
  | some (some a, rest) => some (some a, rest)
  | _ => some (none, ts)

/-- Items with commas between them; an item may be missing. -/
def listed (item : Reading (Option α)) : Nat → Reading (List α)
  | 0 => failure
  | fuel + 1 => do
    let here ← item
    if ← sign "," then return here.toList ++ (← listed item fuel) else return here.toList

/-- Items in parentheses, which have to be there. -/
def enclosed (item : Reading (Option α)) : Reading (List α) := do
  need (sign "(")
  let found ← listed item (← get).length.succ
  need (sign ")")
  return found

/-- The tokens up to the parenthesis that closes the open ones, and what follows it. -/
def group? (depth : Nat) : List Token → Option (List Token × List Token)
  | [] => none
  | t :: ts =>
    if t.isSign ")" then
      match depth with
      | 0 => some ([], ts)
      | depth + 1 => (group? depth ts).map fun found => (t :: found.1, found.2)
    else
      (group? (if t.isSign "(" then depth + 1 else depth) ts).map fun found =>
        (t :: found.1, found.2)

/-- Takes all up to the closing parenthesis of an open one, and answers what is between. -/
def group : Reading (List Token) := do
  match group? 0 (← get) with
  | some (inner, rest) => set rest; return inner
  | none => failure

/-- Keywords that are no names unless they are quoted. -/
def reserved : List String := [
  "SELECT", "FROM", "WHERE", "CREATE", "ALTER", "INSERT", "NOT", "AND", "OR", "XOR", "IN", "LIKE",
  "ILIKE", "BETWEEN", "WHEN", "THEN", "ELSE", "UNION", "EXCEPT", "INTERSECT", "HAVING", "INTO",
  "WITH", "AS", "ON", "JOIN", "INNER", "OUTER", "CROSS", "LATERAL", "USING", "FOR", "DISTINCT",
  "VALUES", "DROP", "GRANT", "RETURNING", "QUALIFY", "TABLESAMPLE", "STRAIGHT_JOIN"]

/-- Keywords that may serve as names, but not as the names of types. -/
def keywords : List String := [
  "ALL", "ANALYZE", "ANTI", "ANY", "APPLY", "ASC", "ASOF", "AUTOINCREMENT", "AUTO_INCREMENT",
  "BEGIN", "CACHE", "CALL", "CASE", "COLLATE", "COLUMN", "COMMENT", "COMMIT", "CONSTRAINT", "COPY",
  "CUBE", "CURRENT_CATALOG", "CURRENT_DATE", "CURRENT_SCHEMA", "CURRENT_TIME",
  "CURRENT_TIMESTAMP", "CURRENT_USER", "DATABASE", "DECLARE", "DEFAULT", "DELETE", "DESC",
  "DESCRIBE", "DO", "END", "ESCAPE", "EXEC", "EXECUTE", "EXISTS", "EXPLAIN", "FALSE", "FETCH",
  "FILTER", "FIRST", "FORMAT", "FULL", "FUNCTION", "INDEX", "INOUT", "IS", "ISNULL", "KEEP",
  "KILL", "LEFT", "LIMIT", "LOAD", "LOCALTIME", "LOCALTIMESTAMP", "LOCK", "MERGE", "NATURAL",
  "NEXT", "NOTNULL", "OFFSET", "ONLY", "OPTIMIZE", "ORDINALITY", "OVER", "OVERLAPS", "OVERWRITE",
  "PARTITION", "PERCENT", "PIVOT", "PRAGMA", "PREPARE", "PROCEDURE", "RANGE", "RECURSIVE",
  "REFERENCES", "REFRESH", "REGEXP", "REINDEX", "RENAME", "REPLACE", "RESET", "REVOKE", "RIGHT",
  "RLIKE", "ROLLBACK", "ROLLUP", "ROW", "ROWS", "SCHEMA", "SEMI", "SEQUENCE", "SESSION",
  "SESSION_USER", "SET", "SETTINGS", "SHOW", "SOME", "TABLE", "TEMP", "TEMPORARY", "TRUE",
  "TRUNCATE", "UNCACHE", "UNIQUE", "UNNEST", "UNPIVOT", "UPDATE", "USE", "VACUUM", "VARIADIC",
  "VIEW", "VOLATILE", "WINDOW"]

def isName (t : Token) : Bool :=
  t.kind == .quotedName || (t.kind == .word && !reserved.any t.isWord)

/-- A name that is quoted or not reserved. -/
def name? : Reading (Option Token) := take? isName

/-- A quoted name, or a word that is no keyword. -/
def isPlainName (t : Token) : Bool := isName t && !keywords.any t.isWord

/-- A token that may serve as a name: anything but signs and the start of a query. -/
def isAnyName (t : Token) : Bool := t.kind != .sign && !t.isWord "SELECT"

def anyName? : Reading (Option Token) := take? isAnyName

/-- Takes a word that is no keyword and is not quoted. -/
def plainWord? : Reading (Option Token) := take? fun t => t.kind == .word && isPlainName t

/-- What is read, with the comments that go along with the last token read. -/
def withRemarks (r : Reading α) : Reading (α × List Text) := do
  let before ← get
  let found ← r
  let read := before.take (before.length - (← get).length)
  return (found, read.getLast?.elim [] (·.comments))

end Reading
end SchemaDiagram.Postgres
