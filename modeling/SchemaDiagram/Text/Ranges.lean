import SchemaDiagram.Text.Basic

/-! Classes of characters given by ranges of code points. -/
namespace SchemaDiagram.Text

/-- The code point lies in one of the ranges, both ends included. -/
def inRanges (ranges : List (Nat × Nat)) (c : Char) : Bool :=
  ranges.any fun r => r.1 ≤ c.toNat && c.toNat ≤ r.2

end SchemaDiagram.Text
