import SchemaDiagram.Sql.Name

/-! Lists of column names in parentheses. -/
namespace SchemaDiagram.Sql

/-- A list in parentheses: its content up to the first closing one, and what follows. -/
def parenthesised? : Text → Option (Text × Text)
  | '(' :: t =>
    match t.takeWhile (· != ')'), t.dropWhile (· != ')') with
    | c :: content, _ :: rest => some (c :: content, rest)
    | _, _ => none
  | _ => none

/-- The name that an item lists: words after a bare name are dropped. -/
def listedName (item : Text) : Text :=
  match item with
  | c :: _ => if (closer? c).isSome then unquote item else Text.firstWord item
  | [] => []

/-- The names that a list holds; blank items are passed over. -/
def listedNames (t : Text) : List Text :=
  (((Text.splitAt ',' t).map Text.trim).filter (!·.isEmpty)).map listedName

end SchemaDiagram.Sql
