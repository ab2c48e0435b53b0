import SchemaDiagram.Text.Case
import SchemaDiagram.Text.Keyword

/-!
Tokens of a PostgreSQL script. Comments are no tokens: each goes along with the token before it
on the same line, or else with the next token.
-/
namespace SchemaDiagram.Postgres

inductive TokenKind where
  | word
  | quotedName
  | string
  /-- A string with backslash escapes, which are kept as written. -/
  | escaped
  | bits
  | hex
  | national
  /-- A string between dollar signs. -/
  | dollar
  | number
  | sign
deriving DecidableEq

/-- A token: what it stands for, without its quotes, and the comments that go along with it. -/
structure Token where
  kind : TokenKind
  text : Text
  comments : List Text := []
deriving DecidableEq

namespace Token

/-- A bare word with the given capitals. -/
def isWord (k : String) (t : Token) : Bool :=
  t.kind == .word && Text.upper t.text == k.toList

/-- A word with the given capitals; quotes around it make no difference. -/
def spells (k : String) (t : Token) : Bool :=
  (t.kind == .word || t.kind == .quotedName) && Text.upper t.text == k.toList

def isSign (s : String) (t : Token) : Bool := t.kind == .sign && t.text == s.toList

/-- A piece of a script. -/
inductive Piece where
  | token (kind : TokenKind) (text : Text)
  | comment (text : Text)
  | lineEnd
  | blank

/-- Characters that end a word and stand for themselves. -/
def isSpecial (c : Char) : Bool := "()[]\x7b\x7d&^:,-.=><%!/\\+;*~?@#|'\x60\"".toList.contains c

/-- The content of a quoted text, a doubled quote standing for one, and what follows. -/
def unquoted? (quote : Char) : Text → Option (Text × Text)
  | [] => none
  | [c] => if c = quote then some ([], []) else none
  | c :: d :: t =>
    if c = quote then
      if d = quote then (unquoted? quote t).map fun found => (quote :: found.1, found.2)
      else some ([], d :: t)
    else (unquoted? quote (d :: t)).map fun found => (c :: found.1, found.2)

/-- The content of a string with backslash escapes, and what follows. -/
def unescaped? : Text → Option (Text × Text)
  | [] => none
  | ['\''] => some ([], [])
  | [_] => none
  | '\'' :: '\'' :: t => (unescaped? t).map fun found => ('\'' :: found.1, found.2)
  | '\'' :: t => some ([], t)
  | '\\' :: '\'' :: t => (unescaped? t).map fun found => ('\'' :: found.1, found.2)
  | '\\' :: '\\' :: t => (unescaped? t).map fun found => ('\\' :: '\\' :: found.1, found.2)
  | c :: t => (unescaped? t).map fun found => (c :: found.1, found.2)

/-- The content of a block comment, in which comments nest, and what follows. -/
def block? (depth : Nat) : Text → Option (Text × Text)
  | [] => none
  | '*' :: '/' :: t =>
    match depth with
    | 0 => some ([], t)
    | depth + 1 => (block? depth t).map fun found => ('*' :: '/' :: found.1, found.2)
  | '/' :: '*' :: t => (block? (depth + 1) t).map fun found => ('/' :: '*' :: found.1, found.2)
  | c :: t => (block? depth t).map fun found => (c :: found.1, found.2)

/-- The text up to a closing tag, and what follows it. -/
def untilTag? (tag : Text) : Text → Option (Text × Text)
  | [] => none
  | c :: t =>
    match Text.after? tag (c :: t) with
    | some rest => some ([], rest)
    | none => (untilTag? tag t).map fun found => (c :: found.1, found.2)

/-- A string between dollar signs, or the sign alone where no tag can be read. -/
def dollar? (t : Text) : Option (Piece × Text) :=
  let tag := t.takeWhile (· != '$')
  match t.dropWhile (· != '$') with
  | [] => some (.token .sign ['$'], t)
  | _ :: rest =>
    if !tag.isEmpty && (tag.all Text.isDigit || tag.any Text.isBlank) then
      some (.token .sign ['$'], t)
    else (untilTag? ('$' :: tag ++ ['$']) rest).map fun found =>
      (.token .dollar found.1, found.2)

/-- The fraction of a number after its digits, and what follows. -/
def fraction (t : Text) : Text × Text :=
  match t with
  | '.' :: rest => ('.' :: rest.takeWhile Text.isDigit, rest.dropWhile Text.isDigit)
  | _ => ([], t)

/-- The power of ten at the end of a number, and what follows. -/
def power (t : Text) : Text × Text :=
  match t with
  | e :: s :: d :: after =>
    if e.toUpper = 'E' && (s = '+' || s = '-') && Text.isDigit d then
      (e :: s :: (d :: after).takeWhile Text.isDigit, (d :: after).dropWhile Text.isDigit)
    else if e.toUpper = 'E' && Text.isDigit s then
      (e :: (s :: d :: after).takeWhile Text.isDigit, (s :: d :: after).dropWhile Text.isDigit)
    else ([], t)
  | [e, s] => if e.toUpper = 'E' && Text.isDigit s then ([e, s], []) else ([], t)
  | _ => ([], t)

/-- Digits with a fraction and a power of ten, as far as they go. -/
def number (t : Text) : Text × Text :=
  let (fraction, rest) := fraction (t.dropWhile Text.isDigit)
  let (power, rest) := power rest
  (t.takeWhile Text.isDigit ++ fraction ++ power, rest)

/-- Signs of several characters. -/
def longSigns : List String := [
  "->>", "#>>", "||/", "<->", "!~*", "||", "|/", "::", ":=", "->", "#>", "#-", "<=", ">=", "<>",
  "!=", "==", "=>", "@>", "<@", "@@", "&&", "!~", "~*", "?|", "?&"]

/-- The sign at the front, the longest one first. -/
def signAt (c : Char) (t : Text) : Text × Text :=
  match longSigns.findSome? fun s => (Text.after? s.toList (c :: t)).map (s.toList, ·) with
  | some found => found
  | none => ([c], t)

def isHexDigit (c : Char) : Bool :=
  c.isDigit || ('A' ≤ c && c ≤ 'F') || ('a' ≤ c && c ≤ 'f')

/-- The kind of string that a letter before a quote announces. -/
def stringMark? (c : Char) : Option TokenKind :=
  match c.toUpper with
  | 'E' => some .escaped
  | 'B' => some .bits
  | 'X' => some .hex
  | 'N' => some .national
  | _ => none

/-- Whether a string of some kind may have this content: only digits stand for bits. -/
def allows (kind : TokenKind) (content : Text) : Bool :=
  match kind with
  | .bits => content.all fun c => c == '0' || c == '1'
  | .hex => content.all isHexDigit
  | _ => true

def string? (kind : TokenKind) (t : Text) : Option (Piece × Text) :=
  ((if kind = .escaped then unescaped? t else unquoted? '\'' t).filter (allows kind ·.1)).map
    fun found => (.token kind found.1, found.2)

/-- A bare word, and what follows. -/
def bareWord (c : Char) (t : Text) : Piece × Text :=
  let goes := fun c => !Text.isBlank c && !isSpecial c
  (.token .word (c :: t.takeWhile goes), t.dropWhile goes)

/-- The piece at the front of a text; none where a comment or a quoted text has no end. -/
def front? (c : Char) (t : Text) : Option (Piece × Text) :=
  match c, t with
  | '\r', '\n' :: t => some (.lineEnd, t)
  | '-', '-' :: t =>
    let inLine := fun c => c != '\n' && c != '\r'
    some (.comment (t.takeWhile inLine), t.dropWhile inLine)
  | '/', '*' :: t => (block? 0 t).map fun found => (.comment found.1, found.2)
  | '\'', t => string? .string t
  | '"', t => (unquoted? '"' t).map fun found => (.token .quotedName found.1, found.2)
  | '\x60', t => some (.token .word ['\x60'], t)
  | '$', t => dollar? t
  | c, '\'' :: t =>
    match stringMark? c with
    | some kind => string? kind t
    | none => some (plain c ('\'' :: t))
  | c, t => some (plain c t)
where
  plain (c : Char) (t : Text) : Piece × Text :=
    if c = '\n' || c = '\r' then (.lineEnd, t)
    else if Text.isBlank c then (.blank, t)
    else if Text.isDigit c then
      let found := number (c :: t)
      (.token .number found.1, found.2)
    else if isSpecial c then
      let found := signAt c t
      (.token .sign found.1, found.2)
    else bareWord c t

/-- The pieces of a script. -/
def pieces? (t : Text) : Option (List Piece) :=
  match t with
  | [] => some []
  | c :: t =>
    match front? c t with
    | none => none
    | some (piece, rest) => (pieces? (t.drop (t.length - rest.length))).map (piece :: ·)
termination_by t.length
decreasing_by simp only [List.length_drop, List.length_cons]; omega

/-- Tokens read so far, the last one first, and the comments that wait for a token. -/
structure Gathering where
  done : List Token := []
  waiting : List Text := []
  onLine : Bool := false

/-- Adds a piece to what is gathered. -/
def Gathering.add (g : Gathering) : Piece → Gathering
  | .token kind text =>
    { done := { kind, text, comments := g.waiting } :: g.done, onLine := true }
  | .comment text =>
    match g.onLine, g.done with
    | true, last :: done => { g with done := { last with comments := last.comments ++ [text] } :: done }
    | _, _ => { g with waiting := g.waiting ++ [text] }
  | .lineEnd => { g with onLine := false }
  | .blank => g

/-- The tokens of a script; none where a comment or a quoted text has no end. -/
def all? (t : Text) : Option (List Token) :=
  (pieces? t).map fun pieces => (pieces.foldl Gathering.add {}).done.reverse

/-- The tokens between semicolons. -/
def statements : List Token → List (List Token)
  | [] => [[]]
  | t :: ts =>
    if t.isSign ";" then [] :: statements ts
    else match statements ts with
      | [] => [[t]]
      | s :: ss => (t :: s) :: ss

end Token
end SchemaDiagram.Postgres
