import SchemaDiagram.Postgres.Expression

/-! Statements of a PostgreSQL script, as far as they declare tables and keys. -/
namespace SchemaDiagram.Postgres

/-- What a reference points at: a table, and some of its columns or none. -/
structure Target where
  table : Text
  columns : List Text := []

inductive ColumnConstraint where
  | primaryKey
  | unique
  | nullable (allowed : Bool)
  | defaultValue (value : Expression)
  | references (target : Target)
  /-- A constraint that no diagram shows. -/
  | other

inductive TableConstraint where
  | primaryKey (columns : List Text)
  | unique (columns : List Text)
  | foreignKey (columns : List Text) (target : Option Target)
  /-- A constraint that no diagram shows, or a name alone. -/
  | other

/-- An element of a column list. -/
inductive Element where
  | column (name : Text) (type : Option TypeName) (constraints : List ColumnConstraint)
  | constraint (c : TableConstraint)
  /-- Constraints under a name. -/
  | named (name : Text) (cs : List TableConstraint)

inductive Statement where
  | createTable (name : Text) (elements : List Element)
  | alterTable (name : Text) (additions : List Element)
  /-- A statement that declares neither a table nor a key. -/
  | other

end SchemaDiagram.Postgres
