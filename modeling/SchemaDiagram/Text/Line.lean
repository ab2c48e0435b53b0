import SchemaDiagram.Text.Ranges

/-! Lines of a text. A carriage return and the line feed after it are one line end. -/
namespace SchemaDiagram.Text

/-- Feeds, returns, the separators of files, groups and records, of lines and paragraphs. -/
def isLineEnd (c : Char) : Bool :=
  inRanges [(0xA, 0xD), (0x1C, 0x1E), (0x85, 0x85), (0x2028, 0x2029)] c

/-- The lines without their ends; a line end at the very end opens no further line. -/
def lines : Text → List Text
  | [] => []
  | '\r' :: '\n' :: t => [] :: lines t
  | c :: t => if isLineEnd c then [] :: lines t else consFirst c (lines t)

/-- Every line end of the kinds `\r\n` and `\r` written as a line feed. -/
def unifyLineEnds : Text → Text
  | [] => []
  | '\r' :: '\n' :: t => '\n' :: unifyLineEnds t
  | '\r' :: t => '\n' :: unifyLineEnds t
  | c :: t => c :: unifyLineEnds t

end SchemaDiagram.Text
