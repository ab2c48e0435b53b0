import SchemaDiagram.Text.Blank

/-! Labels of relation lines, freed of what a diagram would read as its own signs. -/
namespace SchemaDiagram.Diagram

/-- Two hyphens in a row become a dash. -/
def joinHyphens : Text → Text
  | [] => []
  | '-' :: '-' :: t => '—' :: joinHyphens t
  | c :: t => c :: joinHyphens t

/-- A hyphen before a greater-than sign makes an arrow of the two. -/
def joinArrows : Text → Text
  | [] => []
  | '-' :: '>' :: t => '→' :: joinArrows t
  | c :: t => c :: joinArrows t

/-- Braces, brackets and bars have no place in a label. -/
def isFrame (c : Char) : Bool :=
  c == '\x7b' || c == '\x7d' || c == '[' || c == ']' || c == '|'

/-- Comparison signs give way to angle quotes. -/
def angleQuote (c : Char) : Char :=
  if c = '<' then '‹' else if c = '>' then '›' else c

/-- A label that may follow the colon; with blanks in it, it stands in double quotes. -/
def label (t : Text) : Text :=
  let t := Text.trim ((joinArrows ((joinHyphens t).filter (!isFrame ·))).map angleQuote)
  if t.any Text.isBlank then '"' :: t.map (fun c => if c = '"' then '\'' else c) ++ ['"'] else t

end SchemaDiagram.Diagram
