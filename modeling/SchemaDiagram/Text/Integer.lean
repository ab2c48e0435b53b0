import SchemaDiagram.Text.Blank
import SchemaDiagram.Text.Word

/-!
Integers as settings hold them: blanks around, a sign in front, decimal digits of any script, and
single low lines between digits.
-/
namespace SchemaDiagram.Text

/-- The values of the digits of a numeral, which may not end in a low line. -/
def digits? : Text → Option (List Nat)
  | [] => none
  | [c] => (digitValue? c).map ([·])
  | c :: '_' :: t => do some ((← digitValue? c) :: (← digits? t))
  | c :: t => do some ((← digitValue? c) :: (← digits? t))

/-- Whether a numeral is negative, and its digits. -/
def signed? (t : Text) : Option (Bool × List Nat) :=
  match trim t with
  | '-' :: t => (digits? t).map (true, ·)
  | '+' :: t => (digits? t).map (false, ·)
  | t => (digits? t).map (false, ·)

/-- The number that some digits write. -/
def ofDigits (ds : List Nat) : Nat := ds.foldl (fun n d => 10 * n + d) 0

end SchemaDiagram.Text
