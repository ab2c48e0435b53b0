import SchemaDiagram.Text.CaseRuns

/-!
Upper and lower case of texts in every script. A letter may become several, and a capital
sigma at the end of a word has a lower case of its own.
-/
namespace SchemaDiagram.Text

/-- The upper case of one character. -/
def upperChar (c : Char) : Text :=
  if c.toNat < 0x80 then [c.toUpper]
  else match upperExpansions.lookup c.toNat with
    | some letters => letters.map Char.ofNat
    | none => [((runImage? upperRuns c.toNat).map Char.ofNat).getD c]

def upper (t : Text) : Text := t.flatMap upperChar

/-- The lower case of one character that stands alone. -/
def lowerChar (c : Char) : Text :=
  if c.toNat < 0x80 then [c.toLower]
  else if c = '\u0130' then ['i', '\u0307']
  else [((runImage? lowerRuns c.toNat).map Char.ofNat).getD c]

def isCased (c : Char) : Bool := inRanges casedRanges c

def isCaseless (c : Char) : Bool := inRanges caselessRanges c

/-- Whether the next character that counts has case. -/
def startsCased : Text → Bool
  | [] => false
  | c :: t => if isCaseless c then startsCased t else isCased c

/-- The lower case of a text; `inWord` tells whether the last character that counts had case. -/
def lowerAfter (inWord : Bool) : Text → Text
  | [] => []
  | c :: t =>
    let image :=
      if c = '\u03A3' then (if inWord && !startsCased t then ['\u03C2'] else ['\u03C3'])
      else lowerChar c
    image ++ lowerAfter (if isCaseless c then inWord else isCased c) t

def lower (t : Text) : Text := lowerAfter false t

end SchemaDiagram.Text
