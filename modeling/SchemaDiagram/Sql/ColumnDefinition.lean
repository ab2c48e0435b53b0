import SchemaDiagram.Schema.Column
import SchemaDiagram.Sql.ColumnType
import SchemaDiagram.Sql.Target

/-! Column definitions with the constraints that stand in them. -/
namespace SchemaDiagram.Sql

/-- Whether two capital words stand one after the other in a text in capitals. -/
def hasWords (first second : String) (capitals : Text) : Bool :=
  (Text.searchWord (fun t => do
    let t ← Text.gap? (← Text.after? first.toList t)
    (Text.after? second.toList t).filter Text.atWordEnd) false capitals).isSome

/-- Whether a capital word stands in a text in capitals. -/
def hasWord (word : String) (capitals : Text) : Bool :=
  (Text.searchWord (fun t => (Text.after? word.toList t).filter Text.atWordEnd) false
    capitals).isSome

/-- Drops single and double quotes at both ends. -/
def stripQuotes (t : Text) : Text :=
  let isMark := fun c => c == '\'' || c == '"'
  ((t.dropWhile isMark).reverse.dropWhile isMark).reverse

/-- The characters up to a blank or a comma; there must be one at least. -/
def plainValue? (t : Text) : Option Text :=
  match t.takeWhile fun c => !Text.isBlank c && c != ',' with
  | [] => none
  | value => some value

/-- The word after the first keyword for defaults that has one. -/
def defaultWord? (definition : Text) : Option Text :=
  Text.search (fun t => Text.keywordGap? "DEFAULT" t >>= plainValue?) definition

/-- The default of a definition without its quotes; the null value is none. -/
def columnDefault? (definition : Text) : Option Text :=
  ((defaultWord? definition).map stripQuotes).filter fun value =>
    Text.upper value != "NULL".toList

/-- Where the first reference in a definition points. -/
def columnTarget? (definition : Text) : Option Reference :=
  (Text.searchWord Target.read? false definition).map fun (target, _) =>
    ⟨target.table, target.columns.headD impliedColumn⟩

/-- The column that a definition of a given name and type declares. -/
def columnOf (definition name type : Text) : Column :=
  let capitals := Text.upper definition
  let column : Column :=
    { name, type
      isPrimary := hasWords "PRIMARY" "KEY" capitals
      isUnique := hasWord "UNIQUE" capitals
      nullable := !hasWords "NOT" "NULL" capitals
      defaultValue := columnDefault? definition }
  match columnTarget? definition with
  | some target => column.pointAt target.table target.column
  | none => column

/-- The name at the front of a definition and what is declared for it. -/
def definitionHead? (definition : Text) : Option (Text × Text) := do
  let (name, rest) ← name? definition
  match rest with
  | [] => some (unquote name, [])
  | _ => (Text.gap? rest).map (unquote name, ·)

/-- The column that a definition declares. -/
def column? (definition : Text) : Option Column := do
  let (name, rest) ← definitionHead? definition
  let type := columnType rest
  some (columnOf definition name (if type.isEmpty then unknownType else type))

end SchemaDiagram.Sql
