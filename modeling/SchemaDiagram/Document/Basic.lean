import SchemaDiagram.Text.Basic

/-! Documents of named and listed values. -/
namespace SchemaDiagram

inductive Document where
  | null
  | bool (value : Bool)
  | number (digits : Text)
  | string (text : Text)
  | array (items : List Document)
  | object (fields : List (Text × Document))

namespace Document

/-- The value under a name; of several under one name the last counts. -/
def field? (name : String) : Document → Option Document
  | object fields => fields.reverse.lookup name.toList
  | _ => none

def text? : Document → Option Text
  | string text => some text
  | _ => none

/-- A text, and null where there is none. -/
def ofText? (text : Option Text) : Document := (text.map string).getD null

end Document
end SchemaDiagram
