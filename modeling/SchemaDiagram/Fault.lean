import SchemaDiagram.Dialect

/-! Why a script cannot be read. -/
namespace SchemaDiagram

inductive Fault where
  /-- The column list of a table is not closed. -/
  | unbalanced (table : Text)
  /-- The script is not in the PostgreSQL grammar. -/
  | rejected
  /-- The splitter gives up on the script. -/
  | unsplit (message : Text)
  /-- The reader of the PostgreSQL grammar breaks off. -/
  | brokenOff (message : Text)
  /-- No engine handles the dialect. -/
  | noEngine (dialect : Dialect)
  /-- The engine reads nothing at all. -/
  | unreadable
deriving DecidableEq

namespace Fault

/-- A schema passes over a script with such a fault; the others end the run. -/
def isSkipped : Fault → Bool
  | unbalanced _ | rejected => true
  | unsplit _ | brokenOff _ | noEngine _ | unreadable => false

def message : Fault → Text
  | unbalanced table => "Unbalanced parentheses in CREATE TABLE ".toList ++ table
  | rejected => "Invalid PostgreSQL".toList
  | unsplit message | brokenOff message => message
  | noEngine dialect => ("No parser registered for dialect " ++ dialect.name).toList
  | unreadable => []

end Fault
end SchemaDiagram
