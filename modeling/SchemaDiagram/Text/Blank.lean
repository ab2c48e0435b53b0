import SchemaDiagram.Text.Ranges

/-! White space of all scripts, with the four information separators. -/
namespace SchemaDiagram.Text

def blankRanges : List (Nat × Nat) := [
  (0x9, 0xD), (0x1C, 0x20), (0x85, 0x85), (0xA0, 0xA0), (0x1680, 0x1680), (0x2000, 0x200A),
  (0x2028, 0x2029), (0x202F, 0x202F), (0x205F, 0x205F), (0x3000, 0x3000)]

def isBlank (c : Char) : Bool := inRanges blankRanges c

def skipBlanks (t : Text) : Text := t.dropWhile isBlank

/-- What follows one or more blanks. -/
def gap? : Text → Option Text
  | [] => none
  | c :: t => if isBlank c then some (skipBlanks t) else none

def trimEnd (t : Text) : Text := (skipBlanks t.reverse).reverse

/-- The text without the blanks at its two ends. -/
def trim (t : Text) : Text := trimEnd (skipBlanks t)

/-- The characters up to the first blank. -/
def firstWord (t : Text) : Text := t.takeWhile (!isBlank ·)

/-- The text with all blanks left out. -/
def squeeze (t : Text) : Text := t.filter (!isBlank ·)

/-- A text of blanks only. -/
def allBlank (t : Text) : Bool := t.all isBlank

end SchemaDiagram.Text
