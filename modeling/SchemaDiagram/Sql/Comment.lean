import SchemaDiagram.Sql.Statement

/-!
Scripts without their comments. A comment with the comments and line ends right after it is one
remark. A remark gives way to the line ends at its own end, or else to a blank; at the start of
a statement and after an opening parenthesis it leaves nothing. Hints stay.
-/
namespace SchemaDiagram.Sql

/-- A part of a statement: a lexeme, or a remark of one or more. -/
inductive Segment where
  | plain (l : Lexeme)
  | remark (first : Lexeme) (others : List Lexeme)

/-- The segments of a statement. A remark that nothing follows stays apart, in the second part. -/
def segments (remark : List Lexeme) : List Lexeme → List Segment × List Lexeme
  | [] => ([], remark)
  | l :: ls =>
    if l.isRemark || (l.kind == .lineEnd && !remark.isEmpty) then segments (remark ++ [l]) ls
    else
      let found := segments [] ls
      match remark with
      | [] => (.plain l :: found.1, found.2)
      | first :: others => (.remark first others :: .plain l :: found.1, found.2)

/-- The line ends at the end of a text. -/
def lastLineEnds (t : Text) : Text :=
  ((t.reverse.dropWhile (· == ' ')).takeWhile fun c => c == '\n' || c == '\r').reverse

/-- What a comment or a remark leaves behind. -/
def trace (t : Text) : Lexeme :=
  match lastLineEnds t with
  | [] => ⟨.blank, [' ']⟩
  | ends => ⟨.lineEnd, ends⟩

/-- Whether nothing is left of a comment after this lexeme. -/
def leavesNothing : Option Lexeme → Bool
  | none => true
  | some l => l.isSign '('

/-- The kinds of comments that are no hints. -/
def LexemeKind.isComment (kind : LexemeKind) : Bool := kind == .lineComment || kind == .blockComment

/-- The comments of a remark after its first hint leave a trace, its hints stay. -/
def tracesOf (ls : List Lexeme) : List Lexeme :=
  ls.map fun l => if l.kind.isComment then trace l.text else l

/-- What is left of a remark after a lexeme. A hint with nothing but comments in front of it is
kept, and the rest of the remark with it. -/
def remnant (before : Option Lexeme) (first : Lexeme) (others : List Lexeme) : List Lexeme :=
  let gone := if leavesNothing before then [] else [trace (Lexeme.join (first :: others))]
  match (first :: others).dropWhile (·.kind.isComment) with
  | l :: rest => if l.kind = .hint then l :: tracesOf rest else gone
  | [] => gone

/-- Comments at the end of a statement go one by one. -/
def looseEnd (before : Option Lexeme) : List Lexeme → List Lexeme
  | [] => []
  | l :: ls =>
    if !l.kind.isComment then l :: looseEnd (some l) ls
    else if leavesNothing before then looseEnd before ls
    else trace l.text :: looseEnd (some (trace l.text)) ls

/-- The lexemes of segments and of the loose end after them, comments left out. -/
def withoutComments (before : Option Lexeme) : List Segment → List Lexeme → List Lexeme
  | [], loose => looseEnd before loose
  | .plain l :: rest, loose => l :: withoutComments (some l) rest loose
  | .remark first others :: rest, loose =>
    let left := remnant before first others
    left ++ withoutComments (left.getLast?.or before) rest loose

/-- What follows the string at the front, if it is closed. A backslash hides the next character. -/
def afterString? (quote : Char) : Text → Option Text
  | [] => none
  | '\\' :: c :: t => if c = '\n' then none else afterString? quote t
  | c :: t => if c = quote then some t else if c = '\\' then none else afterString? quote t

/--
Lines outside strings without the blanks at their ends, joined by line feeds; `line` is what is
read of the current line, and the next `kept` characters belong to a string.
-/
def tidyLines (line : Text) (kept : Nat) : Text → Text
  | [] => Text.trimEnd line
  | c :: t =>
    match kept with
    | kept + 1 => tidyLines (line ++ [c]) kept t
    | 0 =>
      if c = '\r' && t.head? = some '\n' then tidyLines line 0 t
      else if c = '\r' || c = '\n' then Text.trimEnd line ++ '\n' :: tidyLines [] 0 t
      else if c = '"' || c = '\'' then
        match afterString? c t with
        | some rest => tidyLines (line ++ [c]) (t.length - rest.length) t
        | none => tidyLines (line ++ [c]) 0 t
      else tidyLines (line ++ [c]) 0 t

/-- How many parts a statement has, each remark that something follows taken as one. -/
def Statement.size (s : Statement) : Nat :=
  let found := segments [] s
  found.1.length + found.2.length

/-- The text of a statement without its comments. -/
def Statement.clean (s : Statement) : Text :=
  let found := segments [] s
  tidyLines [] 0 (Lexeme.join (withoutComments none found.1 found.2))

end SchemaDiagram.Sql
