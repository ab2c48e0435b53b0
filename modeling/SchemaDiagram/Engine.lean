import SchemaDiagram.Postgres.Script
import SchemaDiagram.Sql.Script

/-! Engines that read scripts, each for some of the dialects. -/
namespace SchemaDiagram

/-- What engines rely on to take scripts apart. -/
structure Readers where
  splitter : Sql.Splitter := {}
  /-- The statements of a PostgreSQL script, and none where one of them breaks the grammar. -/
  parse? : Text → Option (List Postgres.Statement) := Postgres.statements?
  /-- The message with which reading a script breaks off that has no statements for another reason. -/
  breaksOff? : Text → Option Text := fun _ => none

inductive Engine where
  /-- Reads the grammar of PostgreSQL. -/
  | postgres
  /-- Looks for the definitions in MySQL and SQLite scripts. -/
  | scanner
  /-- Stands for no dialect at all. -/
  | idle
deriving DecidableEq

namespace Engine

def handles : Engine → Dialect → Bool
  | postgres, .postgres | scanner, .mysql | scanner, .sqlite => true
  | _, _ => false

/-- What a script declares, as an engine reads it. -/
def read (engine : Engine) (script : Text) (readers : Readers := {}) : Except Fault Declarations :=
  match engine with
  | postgres => Postgres.declarations script readers.splitter readers.parse? readers.breaksOff?
  | scanner => Sql.declarations script readers.splitter
  | idle => .error .unreadable

/-- Foreign keys that a second look at a script finds. -/
def recover (engine : Engine) (script : Text) (readers : Readers := {}) :
    Except Fault (List ForeignKey) :=
  match engine with
  | scanner => Sql.recoveredKeys script readers.splitter
  | postgres | idle => .ok []

/-- The engines of an ordinary run. -/
def all : List Engine := [postgres, scanner]

/-- The first of some engines that handles a dialect. -/
def pick (engines : List Engine) (dialect : Dialect) : Except Fault Engine :=
  match engines.find? (·.handles dialect) with
  | some engine => .ok engine
  | none => .error (.noEngine dialect)

end Engine
end SchemaDiagram
