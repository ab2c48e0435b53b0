import SchemaDiagram.Text.Basic

/-! Paths: names with slashes between them. Empty names and single dots say nothing. -/
namespace SchemaDiagram

/-- A path from the working folder, or from the root where it has slashes in front. -/
structure Path where
  root : Text := []
  parts : List Text := []
deriving DecidableEq

namespace Path

/-- Slashes in front of a path: just two of them are kept, else one stands for all. -/
def rootOf : Text → Text
  | '/' :: '/' :: '/' :: _ => ['/']
  | '/' :: '/' :: _ => ['/', '/']
  | '/' :: _ => ['/']
  | _ => []

def partsOf (t : Text) : List Text :=
  (Text.splitAt '/' t).filter fun part => !part.isEmpty && part != ['.']

def ofText (t : Text) : Path := ⟨rootOf t, partsOf t⟩

def render (p : Path) : Text :=
  if p.root.isEmpty && p.parts.isEmpty then ['.'] else p.root ++ Text.join ['/'] p.parts

/-- The path to an entry of a folder. -/
def child (p : Path) (name : Text) : Path := { p with parts := p.parts ++ [name] }

/-- Texts in the order of their characters, a start before what it starts. -/
def textBefore : Text → Text → Bool
  | _, [] => false
  | [], _ :: _ => true
  | c :: s, d :: t => if c = d then textBefore s t else c.toNat < d.toNat

/-- Lists of names in the order of their names, a start before what it starts. -/
def partsBefore : List Text → List Text → Bool
  | _, [] => false
  | [], _ :: _ => true
  | a :: s, b :: t => if a = b then partsBefore s t else textBefore a b

/-- Paths in the order of their names. -/
def before (p q : Path) : Bool := partsBefore p.parts q.parts

/-- Puts a path into a sorted list, before the first that comes after it. -/
def insert (p : Path) : List Path → List Path
  | [] => [p]
  | q :: qs => if before q p then q :: insert p qs else p :: q :: qs

/-- The paths in their order. -/
def sort : List Path → List Path
  | [] => []
  | p :: ps => insert p (sort ps)

end Path
end SchemaDiagram
