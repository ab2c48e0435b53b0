import SchemaDiagram.Text.Blank
import SchemaDiagram.Text.Word

/-!
Keywords are written in capitals here and read in any letter case. The long s, the sign for
kelvin and the two Turkish letters i count as the capitals S, K and I.
-/
namespace SchemaDiagram.Text

/-- The capital letter that a character stands for in a keyword. -/
def capital (c : Char) : Char :=
  if c = '\u017F' then 'S'
  else if c = '\u212A' then 'K'
  else if c = '\u0130' ∨ c = '\u0131' then 'I'
  else c.toUpper

/-- What follows a keyword given by its capitals. -/
def afterCapitals : Text → Text → Option Text
  | [], t => some t
  | _ :: _, [] => none
  | k :: ks, c :: t => if capital c = k then afterCapitals ks t else none

/-- What follows a keyword. -/
def keyword? (k : String) (t : Text) : Option Text := afterCapitals k.toList t

/-- What follows a keyword and the blanks after it; there must be one at least. -/
def keywordGap? (k : String) (t : Text) : Option Text := keyword? k t >>= gap?

/-- The text with the part that a recogniser skips left out, or all of it. -/
def optionally (skip : Text → Option Text) (t : Text) : List Text := (skip t).toList ++ [t]

/-- A word does not go on here. -/
def atWordEnd : Text → Bool
  | [] => true
  | c :: _ => !isWord c

/-- The first answer of a recogniser that is tried where a word may start. -/
def searchWord (recognise : Text → Option α) (inWord : Bool) : Text → Option α
  | [] => none
  | c :: t =>
    if inWord then searchWord recognise (isWord c) t
    else (recognise (c :: t)).or (searchWord recognise (isWord c) t)

/-- What follows a keyword that is a whole word. -/
def wholeKeyword? (k : String) (t : Text) : Option Text := (keyword? k t).filter atWordEnd

end SchemaDiagram.Text
