import SchemaDiagram.Text.Blank

/-!
Scanning definitions with their quotes. A single quote, double quote or backtick opens and
closes a text of its kind unless a backslash stands before it; parentheses count outside
quotes only.
-/
namespace SchemaDiagram.Sql

/-- Where a scan stands: the open quote, a backslash just before, the open parentheses. -/
structure Scan where
  quote : Option Char := none
  escaped : Bool := false
  depth : Int := 0
deriving DecidableEq

def isQuote (c : Char) : Bool := c == '\'' || c == '"' || c == '\x60'

namespace Scan

/-- The open quote after an unescaped quote character. -/
def toggle (q : Char) : Option Char → Option Char
  | none => some q
  | some open_ => if open_ = q then none else some open_

/-- How a character outside quotes changes the depth. -/
def slope (c : Char) : Int := if c = '(' then 1 else if c = ')' then -1 else 0

def next (s : Scan) (c : Char) : Scan :=
  let quote := if isQuote c && !s.escaped then toggle c s.quote else s.quote
  { quote, escaped := c == '\\', depth := if quote.isNone then s.depth + slope c else s.depth }

/-- The scan after a text. -/
def after (s : Scan) (t : Text) : Scan := t.foldl next s

/-- The scan stands outside quotes and parentheses. -/
def atTop (s : Scan) : Bool := s.quote.isNone && s.depth == 0

/-- The text up to the parenthesis that brings the depth down to zero, and what follows it. -/
def body? (s : Scan) : Text → Option (Text × Text)
  | [] => none
  | c :: t =>
    if (s.next c).depth ≤ 0 then some ([], t)
    else (body? (s.next c) t).map fun found => (c :: found.1, found.2)

/-- The pieces between the commas outside quotes and parentheses. -/
def pieces (s : Scan) : Text → List Text
  | [] => [[]]
  | c :: t =>
    if c = ',' && s.atTop then [] :: pieces (s.next c) t
    else Text.consFirst c (pieces (s.next c) t)

end Scan

/-- Trims the pieces; a last piece without content is no part. -/
def partsOf : List Text → List Text
  | [] => []
  | [piece] => if Text.allBlank piece then [] else [Text.trim piece]
  | piece :: pieces => Text.trim piece :: partsOf pieces

/-- The parts of a list, cut at its commas outside quotes and parentheses. -/
def parts (t : Text) : List Text := partsOf (Scan.pieces {} t)

/-- The text from a parenthesis at `start` to its match, both left out. -/
def bodyAt? (t : Text) (start : Nat) : Option Text :=
  ((Scan.body? { escaped := t[start]? == some '\\', depth := 1 } (t.drop (start + 1))).map (·.1))

end SchemaDiagram.Sql
