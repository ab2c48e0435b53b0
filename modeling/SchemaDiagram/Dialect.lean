import SchemaDiagram.Text.Case

/-! The dialect of a script, guessed from words that only one of them uses. -/
namespace SchemaDiagram

inductive Dialect where
  | postgres
  | mysql
  | sqlite
deriving DecidableEq

namespace Dialect

def name : Dialect → String
  | postgres => "postgres"
  | mysql => "mysql"
  | sqlite => "sqlite"

/-- The capitals of words that give a dialect away, in the order in which they are looked for. -/
def signatures : List (Dialect × List String) := [
  (postgres, ["SERIAL", "BYTEA", "::"]),
  (mysql, ["AUTO_INCREMENT", "ENGINE=", "UNSIGNED"]),
  (sqlite, ["AUTOINCREMENT", "WITHOUT ROWID"])]

/-- The first dialect of which a signature occurs in any letter case, and else PostgreSQL. -/
def detect (script : Text) : Dialect :=
  let capitals := Text.upper script
  match signatures.find? fun entry => entry.2.any fun w => Text.occursIn w.toList capitals with
  | some entry => entry.1
  | none => postgres

end Dialect
end SchemaDiagram
