import SchemaDiagram.Sql.Lexeme

/-!
Statements of a script. They end at semicolons outside parentheses and blocks, and at batch
separators; blanks and line comments after the end still belong to the statement.
-/
namespace SchemaDiagram.Sql

/-- A statement is the list of its lexemes. -/
abbrev Statement := List Lexeme

/-- What is open at some point of a statement. -/
structure Nesting where
  /-- Open parentheses and blocks. -/
  level : Int := 0
  /-- Blocks that started with their own keyword and hold statements. -/
  blocks : Nat := 0
  /-- The statement creates something. -/
  creates : Bool := false
  /-- A block was just started. -/
  justBegun : Bool := false
  /-- A case distinction is open. -/
  inCase : Bool := false
  /-- A loop head is open whose body has a keyword of its own. -/
  inLoopHead : Bool := false
deriving DecidableEq

namespace Nesting

/-- Words that make the start of a block the start of a transaction. -/
def transactionWords : List String := [
  "TRANSACTION", "WORK", "TRAN", "DISTRIBUTED", "DEFERRED", "IMMEDIATE", "EXCLUSIVE"]

/-- The capitals of a word are one of some words. -/
def isOneOf (words : List String) (capitals : Text) : Bool := words.any (·.toList == capitals)

/-- The effect of a word, given by its capitals. -/
def word (n : Nesting) (capitals : Text) : Nesting :=
  let inBlock := n.creates && 0 < n.blocks
  if (Text.after? "CREATE".toList capitals).any Text.atWordEnd then { n with creates := true }
  else if isOneOf ["DECLARE"] capitals && n.creates && n.blocks = 0 then
    { n with level := n.level + 1 }
  else if isOneOf ["BEGIN"] capitals then
    { n with
      blocks := n.blocks + 1, justBegun := true
      level := if n.creates then n.level + 1 else n.level }
  else if isOneOf transactionWords capitals && n.justBegun then
    { n with blocks := n.blocks - 1, justBegun := false }
  else if isOneOf ["END"] capitals then
    { n with
      level := n.level - 1, inCase := false
      blocks := if n.inCase then n.blocks else n.blocks - 1 }
  else if (Text.after? "END".toList capitals).any fun t => !Text.atWordEnd t || t.isEmpty then n
  else if (Text.after? "END".toList capitals).isSome then { n with level := n.level - 1 }
  else if inBlock && isOneOf ["CASE"] capitals then
    { n with level := n.level + 1, inCase := true }
  else if inBlock && isOneOf ["IF"] capitals then { n with level := n.level + 1 }
  else if inBlock && isOneOf ["FOR", "WHILE"] capitals then
    { n with level := n.level + 1, inLoopHead := true }
  else if inBlock && isOneOf ["LOOP"] capitals then
    { n with level := if n.inLoopHead then n.level else n.level + 1, inLoopHead := false }
  else if isOneOf ["DO"] capitals then { n with inLoopHead := false }
  else n

/-- The effect of a lexeme on what is open. -/
def change (n : Nesting) (l : Lexeme) : Nesting :=
  if l.isSign '(' then { n with level := n.level + 1 }
  else if l.isSign ')' then { n with level := n.level - 1 }
  else match l.keyword? with
    | some capitals => n.word capitals
    | none => n

/-- A batch separator, in capitals, with or without a count. -/
def isBatchEnd (l : Lexeme) : Bool :=
  l.kind == .word && Text.firstWord l.text == "GO".toList

/-- A lexeme that leaves a block just begun: a blank, a comment, or the start itself. -/
def isPause (l : Lexeme) : Bool :=
  l.kind == .blank || l.kind == .lineComment || l.kind == .blockComment
    || l.keyword? == some "BEGIN".toList

/-- Whether the statement ends at a lexeme, and what is open after it. -/
def step (n : Nesting) (l : Lexeme) : Bool × Nesting :=
  let n := n.change l
  if l.isSign ';' then
    if n.justBegun then (true, { n with blocks := n.blocks - 1, justBegun := false })
    else (n.level ≤ 0 && n.blocks == 0, n)
  else if isBatchEnd l then (true, n)
  else if isPause l then (false, n)
  else (false, { n with justBegun := false })

end Nesting

namespace Statement

/-- Blanks and line comments after a statement belong to it. -/
def isTrailer (l : Lexeme) : Bool := l.kind == .blank || l.kind == .lineComment

/-- Puts a lexeme in front of the first statement. -/
def consFirst (l : Lexeme) : List Statement → List Statement
  | [] => [[l]]
  | s :: ss => (l :: s) :: ss

/-- The statements of some lexemes; `ended` tells whether the current one is at its end. -/
def cut (ended : Bool) (n : Nesting) : List Lexeme → List Statement
  | [] => [[]]
  | l :: ls =>
    if ended && !isTrailer l then
      let (ends, n) := Nesting.step {} l
      [] :: consFirst l (cut ends n ls)
    else
      let (ends, n) := n.step l
      consFirst l (cut (ended || ends) n ls)

/-- Nothing but blanks and line ends. -/
def isEmpty (s : Statement) : Bool := s.all fun l => l.kind == .blank || l.kind == .lineEnd

/-- The statements of a text; what is left at its end counts unless it is empty. -/
def ofText (t : Text) : List Statement :=
  (cut false {} (Lexeme.all none t)).filter (!isEmpty ·)

/-- The text of a statement without the blanks at its ends. -/
def text (s : Statement) : Text := Text.trim (Lexeme.join s)

/-- What a statement does, by its first word. -/
inductive Kind where
  | create
  | alter
  | other
deriving DecidableEq

def kind (s : Statement) : Kind :=
  match s.find? fun l => !(l.kind == .blank || l.kind == .lineEnd || l.isRemark) with
  | some l =>
    if l.keyword? = some "CREATE".toList then .create
    else if l.keyword? = some "ALTER".toList then .alter
    else .other
  | none => .other

/--
How deeply parentheses nest that have a match. The open ones are kept with the depth found in
each, the innermost first, above the depth found outside all of them.
-/
def depthIn (outer : Nat) : List Nat → List Lexeme → Nat
  | stack, [] => stack.foldl max outer
  | stack, l :: ls =>
    if l.isSign '(' then depthIn outer (0 :: stack) ls
    else if l.isSign ')' then
      match stack with
      | d :: e :: rest => depthIn outer (max (d + 1) e :: rest) ls
      | [d] => depthIn (max (d + 1) outer) [] ls
      | [] => depthIn outer [] ls
    else depthIn outer stack ls

def depth (s : Statement) : Nat := depthIn 0 [] s

/-- A statement may nest its parentheses less than a hundred levels deep. -/
def isTooDeep (s : Statement) : Bool := 100 ≤ s.depth

end Statement
end SchemaDiagram.Sql
