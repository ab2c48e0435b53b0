import SchemaDiagram.Diagram.Relation
import SchemaDiagram.Diagram.Label
import SchemaDiagram.Diagram.Link

/-! The entity relation diagram of a schema, line by line. -/
namespace SchemaDiagram.Diagram

/-- How many children a parent may have. -/
inductive Arrow where
  | one
  | many
deriving DecidableEq

def Arrow.text : Arrow → Text
  | one => "||--||".toList
  | many => "||--o\x7b".toList

/-- The diagram of no table. -/
def empty : List Text :=
  ["erDiagram", "  EMPTY \x7b", "    string note \"No tables found\"", "  \x7d"].map (·.toList)

/-- Two names in one entity when they agree in upper case. -/
def entityName (table : Text) : Text := Text.upper table

/-- Each run of blanks as one low line; `inRun` tells whether a run is under way. -/
def lowLines (inRun : Bool) : Text → Text
  | [] => []
  | c :: t =>
    if Text.isBlank c then (if inRun then lowLines true t else '_' :: lowLines true t)
    else c :: lowLines false t

/-- A primary key is marked as such, whether it is a foreign key or not. -/
def badge (c : Column) : Text :=
  if c.isPrimary then " PK".toList else if c.isForeign then " FK".toList else []

def columnLine (c : Column) : Text :=
  "    ".toList ++ lowLines false (Text.upper c.type) ++ [' '] ++ c.name ++ badge c

/-- The lines of one entity. -/
def block (t : Table) : List Text :=
  ("  ".toList ++ entityName t.name ++ " \x7b".toList) :: t.columns.map columnLine
    ++ ["  \x7d".toList]

/-- The tables whose entity does not occur before; `seen` holds the entities that did. -/
def firsts (seen : List Text) : List Table → List Table
  | [] => []
  | t :: ts =>
    if seen.contains (entityName t.name) then firsts seen ts
    else t :: firsts (entityName t.name :: seen) ts

/-- A relation from a parent to a child, under a label. -/
def relationLine (parent : Text) (arrow : Arrow) (child title : Text) : Text :=
  "  ".toList ++ Text.upper parent ++ [' '] ++ arrow.text ++ [' '] ++ Text.upper child
    ++ " : ".toList ++ label title

/-- The first of three texts that is not empty. -/
def title (a : Relation) : Text :=
  if !a.name.isEmpty then a.name
  else if !a.cardinality.isEmpty then a.cardinality
  else "rel".toList

def statedLine (a : Relation) : Text :=
  relationLine a.parent (if a.isMany then .many else .one) a.child (title a)

def linkLine (l : Link) : Text :=
  relationLine l.parent (if l.oneToOne then .one else .many) l.child
    (l.childColumn ++ ['→'] ++ l.parentColumn)

/-- One block for each entity, then the stated relations, then the foreign keys. -/
def lines (tables : List Table) (relations : List Relation) : List Text :=
  if tables.isEmpty then empty
  else "erDiagram".toList :: (firsts [] tables).flatMap block ++ relations.map statedLine
    ++ (tables.flatMap Table.links).map linkLine

/-- The text of the diagram, without a line feed at its end. -/
def render (tables : List Table) (relations : List Relation) : Text :=
  Text.join ['\n'] (lines tables relations)

end SchemaDiagram.Diagram
