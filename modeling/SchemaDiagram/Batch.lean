import SchemaDiagram.Diagram.Basic
import SchemaDiagram.Engine
import SchemaDiagram.Schema.Basic

/-! Batches of scripts: the schema that they build up, and the diagram of it. -/
namespace SchemaDiagram

/-- The schema after what a script declares and what a second look at it finds, in this order. -/
def Schema.extend (s : Schema) (found : Declarations) (recovered : List ForeignKey) : Schema :=
  (((s ++ found.tables).applyPrimaryKeys found.primaryKeys).applyForeignKeys
    found.foreignKeys).applyForeignKeys recovered

/-- A schema that is being built. A fault leaves behind the tables as they are when it occurs. -/
abbrev Building := ExceptT Fault (StateM Schema)

/-- Adds one more script, and tells how many tables it adds. A script that cannot be read adds
nothing. -/
def Building.addScript (engines : List Engine) (script : Text) (readers : Readers := {}) :
    Building Nat := do
  let engine ← Engine.pick engines (Dialect.detect script)
  match engine.read script readers with
  | .error fault => if fault.isSkipped then return 0 else throw fault
  | .ok found =>
    modify (· ++ found.tables)
    modify (·.applyPrimaryKeys found.primaryKeys)
    modify (·.applyForeignKeys found.foreignKeys)
    let recovered ← engine.recover script readers
    modify (·.applyForeignKeys recovered)
    return found.tables.length

/-- The schema after one more script, and how many tables the script adds. -/
def Schema.addScript (engines : List Engine) (s : Schema) (script : Text)
    (readers : Readers := {}) : Except Fault (Schema × Nat) :=
  let (answer, s) := (Building.addScript engines script readers).run s
  answer.map (s, ·)

/-- The schema of some scripts in order. -/
def Schema.ofScripts (scripts : List Text) (readers : Readers := {}) : Except Fault Schema :=
  scripts.foldlM (fun s script => (·.1) <$> s.addScript Engine.all script readers) []

/-- What a diagram shows. -/
structure Model where
  tables : Schema
  relations : List Relation

namespace Model

/-- The model of some scripts and of the text that states relations, if there is one. -/
def ofTexts (scripts : List Text) (stated : Option Text) (readers : Readers := {}) :
    Except Fault Model :=
  (Schema.ofScripts scripts readers).map fun tables =>
    { tables, relations := (stated.map Relation.ofText).getD [] }

def diagram (m : Model) : Text := Diagram.render m.tables m.relations

end Model
end SchemaDiagram
