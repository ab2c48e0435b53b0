import SchemaDiagram.Text.Case
import SchemaDiagram.Text.Keyword

/-!
Lexemes of a script: comments, hints, literals, names, words and signs. The rules are tried in
order at each position and the first one that applies decides; a character that no rule takes
is a lexeme of its own, so the lexemes of a text always make up the text.
-/
namespace SchemaDiagram.Sql

inductive LexemeKind where
  /-- A comment that starts with a plus sign and addresses the planner. -/
  | hint
  | lineComment
  | blockComment
  | lineEnd
  | blank
  /-- A semicolon, colon, comma, dot, parenthesis or bracket. -/
  | sign
  /-- A bare word, which may be a keyword. -/
  | word
  /-- A name, which is no keyword whatever its letters. -/
  | name
  | other
deriving DecidableEq

structure Lexeme where
  kind : LexemeKind
  text : Text
deriving DecidableEq

namespace Lexeme

/-- The letters that start a name: Latin ones up to the capital thorn, in any case. -/
def isInitial (c : Char) : Bool :=
  Text.inRanges [(0x41, 0x5A), (0x61, 0x7A), (0xC0, 0xDC), (0xE0, 0xF6), (0xF8, 0xFC),
    (0x130, 0x131), (0x17F, 0x17F), (0x212A, 0x212B)] c

def startsWith (test : Char → Bool) : Text → Bool
  | [] => false
  | c :: _ => test c

/-- What follows a word that starts with one of the initials. -/
def initialWord? : Text → Option Text
  | [] => none
  | c :: t => if isInitial c then some (t.dropWhile Text.isWord) else none

/-- What follows the line, its end included. -/
def afterLine : Text → Text
  | [] => []
  | '\r' :: '\n' :: t => t
  | '\r' :: t => t
  | '\n' :: t => t
  | _ :: t => afterLine t

/-- What follows the end of a block comment. -/
def afterBlock? : Text → Option Text
  | [] => none
  | '*' :: '/' :: t => some t
  | _ :: t => afterBlock? t

/-- What follows the sign of a line comment. -/
def lineSign? (t : Text) : Option Text :=
  (Text.after? ['-', '-'] t).or (Text.after? ['#', ' '] t)

/--
What follows the quote that closes a literal. A doubled quote does not close it, nor does one
after a backslash where `escapes` holds; but where nothing else closes it, the last of these does.
-/
def afterLiteral? (quote : Char) (escapes : Bool) : Text → Option Text
  | [] => none
  | [c] => if c = quote then some [] else none
  | c :: d :: t =>
    if c = quote then (if d = quote then (afterLiteral? quote escapes t).or (some (d :: t))
      else some (d :: t))
    else if escapes && c = '\\' && d = quote then (afterLiteral? quote escapes t).or (some t)
    else afterLiteral? quote escapes (d :: t)

/-- What follows a literal that starts and ends with a quote. -/
def literal? (quote : Char) (escapes : Bool) (t : Text) : Option Text :=
  Text.after? [quote] t >>= afterLiteral? quote escapes

/-- What follows the first occurrence of a text, in any letter case. -/
def afterOccurrence? (part : Text) (t : Text) : Option Text :=
  Text.search (go part) t
where
  go : Text → Text → Option Text
    | [], t => some t
    | _ :: _, [] => none
    | p :: ps, c :: t => if Text.lowerChar p = Text.lowerChar c then go ps t else none

/-- A literal between two equal tags in dollar signs, not after a name. -/
def dollarLiteral? (before : Option Char) (t : Text) : Option Text := do
  if before.any fun c => Text.isWord c || c == '"' || c == '$' then none
  else
    let inner ← Text.after? ['$'] t
    let (tag, rest) := Text.word inner
    if tag.isEmpty || startsWith (fun c => c == '_' || isInitial c) tag then
      let rest ← Text.after? ['$'] rest
      afterOccurrence? ('$' :: tag ++ ['$']) rest
    else none

/-- A percent sign and an `s`, with or without a name in parentheses between them. -/
def percentMark? (t : Text) : Option Text := do
  let t ← Text.after? ['%'] t
  let named := do
    let (_, rest) ← Text.word? (← Text.after? ['('] t)
    Text.keyword? "S" (← Text.after? [')'] rest)
  named.or (Text.keyword? "S" t)

/-- A sign and a word that stand for a value, not within a word. -/
def valueMark? (before : Option Char) (t : Text) : Option Text :=
  match t with
  | c :: t =>
    if (c == '$' || c == ':' || c == '?') && !before.any Text.isWord then
      (Text.word? t).map (·.2)
    else none
  | [] => none

/-- One of some keywords as a whole word. -/
def oneOf (keywords : List String) (t : Text) : Option Text :=
  keywords.findSome? (Text.wholeKeyword? · t)

/-- A keyword with a second one after it, as whole words. -/
def pair? (first : String) (seconds : List String) (t : Text) : Option Text :=
  Text.keywordGap? first t >>= oneOf seconds

/-- A name of two characters or more after signs that mark it. -/
def markedName? (t : Text) : Option Text := do
  let t ← ((Text.after? ['@'] t).or (Text.after? ['#', '#'] t)).or (Text.after? ['#'] t)
  match t with
  | c :: d :: t => if isInitial c && Text.isWord d then some (t.dropWhile Text.isWord) else none
  | _ => none

/-- A word before a dot, blanks between them allowed. -/
def beforeDot? (t : Text) : Option Text :=
  (initialWord? t).filter fun rest => startsWith (· == '.') (Text.skipBlanks rest)

/-- A word after a dot. -/
def afterDot? (before : Option Char) (t : Text) : Option Text :=
  if before = some '.' then initialWord? t else none

/-- A word before a parenthesis. -/
def called? (t : Text) : Option Text :=
  (initialWord? t).filter (startsWith (· == '('))

/-- Skips a minus sign where there is one. -/
def skipMinus (t : Text) : Text := (Text.after? ['-'] t).getD t

/-- One or more digits, and what follows. -/
def digits? (t : Text) : Option (Text × Text) :=
  match t.takeWhile Text.isDigit with
  | [] => none
  | ds => some (ds, t.dropWhile Text.isDigit)

def hexNumber? (t : Text) : Option Text := do
  let t ← Text.keyword? "X" (← Text.after? ['0'] (skipMinus t))
  let isHex := fun c => Text.isDigit c || ('A' ≤ c && c ≤ 'F') || ('a' ≤ c && c ≤ 'f')
  if startsWith isHex t then some (t.dropWhile isHex) else none

def powerNumber? (t : Text) : Option Text := do
  let (_, t) ← digits? (skipMinus t)
  let power := fun t => do
    let t ← Text.keyword? "E" t
    let (_, t) ← digits? (skipMinus t)
    some t
  let afterFraction := do
    let (_, t) ← digits? (← Text.after? ['.'] t)
    power t
  afterFraction.or (power t)

/-- Digits end a number where no letter follows them; else they give their last one back. -/
def endNumber (ds rest : Text) (least : Nat) : Option Text :=
  if !startsWith (fun c => c == '_' || isInitial c) rest then some rest
  else if least < ds.length then some (ds.drop (ds.length - 1) ++ rest)
  else none

def fraction? (t : Text) : Option Text :=
  match digits? (skipMinus t) with
  | some (_, rest) => do
    let rest ← Text.after? ['.'] rest
    endNumber (rest.takeWhile Text.isDigit) (rest.dropWhile Text.isDigit) 0
  | none => do
    let (ds, rest) ← digits? (← Text.after? ['.'] (skipMinus t))
    endNumber ds rest 1

def integer? (t : Text) : Option Text := do
  let (ds, rest) ← digits? (skipMinus t)
  endNumber ds rest 1

/-- A name in brackets, unless the brackets index what is before them. -/
def bracketName? (before : Option Char) (t : Text) : Option Text := do
  if before.any fun c => Text.isWord c || c == ']' || c == ')' then none
  else
    let inner ← Text.after? ['['] t
    let stops := fun c => c == '[' || c == ']'
    if startsWith stops inner then none
    else Text.after? [']'] (inner.dropWhile (!stops ·))

/-- A batch separator that counts its repetitions by one blank and a number. -/
def countedGo? (t : Text) : Option Text := do
  match ← Text.keyword? "GO" t with
  | c :: t =>
    if Text.isBlank c then ((digits? t).map (·.2)).filter Text.atWordEnd else none
  | [] => none

/-- A word with dollar and number signs in it. -/
def plainWord? (t : Text) : Option Text :=
  match t with
  | c :: t =>
    if Text.isWord c then some (t.dropWhile fun d => Text.isWord d || d == '$' || d == '#')
    else none
  | [] => none

def sign? (t : Text) : Option Text :=
  match t with
  | c :: t => if ";:()[],.".toList.contains c then some t else none
  | [] => none

/-- A run of characters of a class. -/
def run? (test : Char → Bool) (t : Text) : Option Text :=
  if startsWith test t then some (t.dropWhile test) else none

/-- One of some operators. -/
def operator? (operators : List String) (t : Text) : Option Text :=
  operators.findSome? fun o => Text.after? o.toList t

/-- The rules: the kind of a lexeme, and what follows it given the character before it. -/
def rules : List (LexemeKind × (Option Char → Text → Option Text)) := [
  (.hint, fun _ t => ((lineSign? t) >>= Text.after? ['+']).map afterLine),
  (.hint, fun _ t => Text.after? ['/', '*', '+'] t >>= afterBlock?),
  (.lineComment, fun _ t => (lineSign? t).map afterLine),
  (.blockComment, fun _ t => Text.after? ['/', '*'] t >>= afterBlock?),
  (.lineEnd, fun _ t => operator? ["\r\n", "\r", "\n"] t),
  (.blank, fun _ t => if startsWith Text.isBlank t then some (t.drop 1) else none),
  (.other, fun _ t => operator? [":=", "::", "*"] t),
  (.name, fun _ t => literal? '\x60' false t),
  (.name, fun _ t => literal? '´' false t),
  (.other, dollarLiteral?),
  (.other, fun _ t => Text.after? ['?'] t),
  (.other, fun _ t => percentMark? t),
  (.other, valueMark?),
  (.other, fun _ t => (Text.after? ['\\'] t >>= Text.word?).map (·.2)),
  (.word, fun _ t => oneOf ["CASE", "IN", "VALUES", "USING", "FROM", "AS"] t),
  (.name, fun _ t => markedName? t),
  (.name, fun _ t => beforeDot? t),
  (.name, afterDot?),
  (.name, fun _ t => called? t),
  (.other, fun _ t => hexNumber? t),
  (.other, fun _ t => powerNumber? t),
  (.other, fun _ t => fraction? t),
  (.other, fun _ t => integer? t),
  (.other, fun _ t => literal? '\'' true t),
  (.other, fun _ t => literal? '"' true t),
  (.name, bracketName?),
  (.word, fun _ t => pair? "END" ["IF", "LOOP", "WHILE", "FOR", "CASE"] t),
  (.word, fun _ t => Text.wholeKeyword? "END" t),
  (.word, fun _ t => Text.keywordGap? "CREATE" t >>= pair? "OR" ["REPLACE"]),
  (.word, fun _ t => Text.wholeKeyword? "CREATE" t),
  (.word, fun _ t => pair? "HANDLER" ["FOR"] t),
  (.word, fun _ t => countedGo? t),
  (.word, fun _ t => plainWord? t),
  (.sign, fun _ t => sign? t),
  (.other, fun _ t => operator? ["->>", "->", "#>>", "#>", "@>", "<@", "-", "#-"] t),
  (.other, fun _ t => run? ("<>=~!".toList.contains ·) t),
  (.other, fun _ t => run? ("+/@#%^&|-".toList.contains ·) t)]

/-- The kind of the lexeme at the front of a text, and what follows it. -/
def front (before : Option Char) (t : Text) : LexemeKind × Text :=
  (rules.findSome? fun rule => (rule.2 before t).map (rule.1, ·)).getD (.other, t.drop 1)

/-- The lexemes of a text, given the character before it. -/
def all (before : Option Char) (t : Text) : List Lexeme :=
  match t with
  | [] => []
  | c :: t =>
    let found := front before (c :: t)
    let size := t.length - found.2.length
    let text := c :: t.take size
    ⟨found.1, text⟩ :: all text.getLast? (t.drop size)
termination_by t.length
decreasing_by simp only [List.length_drop, List.length_cons]; omega

/-- The text that lexemes make up. -/
def join (ls : List Lexeme) : Text := ls.flatMap (·.text)

/-- The capitals of a word that may be a keyword, blanks within it included. -/
def keyword? (l : Lexeme) : Option Text :=
  if l.kind = .word then some (Text.upper l.text) else none

def isSign (c : Char) (l : Lexeme) : Bool := l.kind == .sign && l.text == [c]

/-- A comment of any kind, hints included. -/
def isRemark (l : Lexeme) : Bool :=
  l.kind == .hint || l.kind == .lineComment || l.kind == .blockComment

end Lexeme
end SchemaDiagram.Sql
