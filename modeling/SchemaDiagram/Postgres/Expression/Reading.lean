import SchemaDiagram.Postgres.Expression

/-!
The grammar of expressions, from the loosest operator to the tightest: `OR`, `AND`, equality,
order, tests, bits and concatenation, sums, products, powers, signs, casts. Each level reads its
operands through the next one; the last one is handed in, so that only what stands in brackets
or behind a sign comes back to the first.
-/
namespace SchemaDiagram.Postgres.Reading

/-- What a level reads: an expression, or none where no token starts one. -/
abbrev Operand := Reading (Option Expression)

/-- An operator at the front: its printed form and the comments after it. -/
abbrev Operator := Reading (Option (Text × List Text))

/-- Takes one of some signs, each with its printed form. -/
def signOperator (signs : List (String × String)) : Operator := do
  match (← get).head?.bind fun t => (signs.find? fun entry => t.isSign entry.1).map (t, ·.2) with
  | some (t, text) => modify (·.drop 1); return some (text.toList, t.comments)
  | none => return none

/-- Takes one of some keywords. -/
def wordOperator (ks : List String) : Operator := do
  match ← take? fun t => ks.any t.isWord with
  | some t => return some (Text.upper t.text, t.comments)
  | none => return none

def either (a b : Operator) : Operator := do
  match ← a with
  | some found => return some found
  | none => b

/-- Further operands after a first one, grouped to the left. -/
def chainFrom (operator : Operator) (operand : Operand) (left : Expression) :
    Nat → Reading Expression
  | 0 => return left
  | fuel + 1 => do
    match ← operator with
    | some (text, remarks) =>
      let right ← need? operand
      chainFrom operator operand (.binary text remarks left right) fuel
    | none => return left

/-- Operands with operators of one level between them. -/
def chain (operator : Operator) (operand : Operand) : Operand := do
  match ← operand with
  | some left => some <$> chainFrom operator operand left (← get).length
  | none => return none

def zone : Operator := do
  let (found, remarks) ← withRemarks (words ["AT", "TIME", "ZONE"])
  return if found then some ("AT TIME ZONE".toList, remarks) else none

def power (unary : Operand) : Operand := chain (signOperator [("^", "^")]) unary

def product (unary : Operand) : Operand :=
  chain (signOperator [("*", "*"), ("/", "/"), ("<->", "<->")]) (chain zone (power unary))

def sum (unary : Operand) : Operand :=
  chain (either (signOperator [("+", "+"), ("-", "-"), ("%", "%")]) (wordOperator ["COLLATE"]))
    (product unary)

/-- Two signs that shift bits, when they stand side by side. -/
def shift : Operator := do
  match ← get with
  | a :: b :: rest =>
    if a.isSign "<" && b.isSign "<" then set rest; return some ("<<".toList, b.comments)
    else if a.isSign ">" && b.isSign ">" then set rest; return some (">>".toList, b.comments)
    else return none
  | _ => return none

/-- The level of a default value. -/
def bitwise (unary : Operand) : Operand :=
  chain (either shift (signOperator [("||", "||"), ("&", "&"), ("|", "|"), ("#", "#")])) (sum unary)

def negate (no : Bool) (e : Expression) : Expression := if no then .lead "NOT".toList e else e

/-- What is tested after `IS`. -/
def isTest (unary : Operand) (left : Expression) : Reading Expression := do
  let no ← word "NOT"
  if ← words ["DISTINCT", "FROM"] then
    let right ← need? (bitwise unary)
    let text := if no then "IS NOT DISTINCT FROM" else "IS DISTINCT FROM"
    return .binary text.toList [] left right
  else
    let right ← need? (wordOperator ["NULL", "TRUE", "FALSE", "UNKNOWN"])
    return negate no (.binary "IS".toList [] left (.note (.verbatim right.1) right.2))

/-- A test after an operand, or the operand alone. -/
def testOf (inner unary : Operand) (left : Expression) : Reading Expression := do
  if ← word "IS" then isTest unary left
  else if ← word "ISNULL" then return .binary "IS".toList [] left (.verbatim "NULL".toList)
  else if ← word "NOTNULL" then
    return .lead "NOT".toList (.binary "IS".toList [] left (.verbatim "NULL".toList))
  else
    let no ← word "NOT"
    if ← word "IN" then
      let items ← enclosed inner
      return negate no (.binary "IN".toList [] left (.group items))
    else if ← word "BETWEEN" then
      let low ← need? (bitwise unary)
      need (word "AND")
      let high ← need? (bitwise unary)
      return negate no (.phrase [left, .verbatim "BETWEEN".toList, low, .verbatim "AND".toList, high])
    else
      match ← wordOperator ["LIKE", "ILIKE", "OVERLAPS"] with
      | some (text, remarks) =>
        return negate no (.binary text remarks left (← need? (bitwise unary)))
      | none =>
        if no then failure
        match ← signOperator [("~", "~"), ("~*", "~*"), ("@>", "@>"), ("<@", "<@"), ("&&", "&&"),
            ("?", "?"), ("?|", "?|"), ("?&", "?&"), ("@@", "@@")] with
        | some (text, remarks) =>
          return .binary text remarks left (← need? (bitwise unary))
        | none => return left

def test (inner unary : Operand) : Operand := do
  match ← bitwise unary with
  | some left => some <$> testOf inner unary left
  | none => return none

def order (inner unary : Operand) : Operand :=
  chain (signOperator [("<=", "<="), (">=", ">="), ("<", "<"), (">", ">")]) (test inner unary)

def equality (inner unary : Operand) : Operand :=
  chain (signOperator [("=", "="), ("==", "="), ("<>", "<>"), ("!=", "<>")]) (order inner unary)

/-- A whole expression, given how to read one in brackets and one behind a sign. -/
def disjunction (inner unary : Operand) : Operand :=
  chain (wordOperator ["OR"]) (chain (wordOperator ["AND"]) (equality inner unary))

/-- A part of a text: where it starts, and how long it is. -/
def substringOf : List Expression → Expression
  | [text, start] => .call "SUBSTRING".toList [.phrase [text, .verbatim "FROM".toList, start]]
  | [text, start, length] =>
    .call "SUBSTRING".toList
      [.phrase [text, .verbatim "FROM".toList, start, .verbatim "FOR".toList, length]]
  | items => .call "SUBSTRING".toList items

/-- The unit of a length of time in capitals. -/
def capitals : Expression → Expression
  | .verbatim t => .verbatim (Text.upper t)
  | e => e

/-- The text of a string as a word. -/
def withoutQuotes : Expression → Expression
  | .verbatim ('\'' :: t) => .verbatim t.dropLast
  | e => e

/-- What a call is printed as: some functions have a name or a form of their own. -/
def callOf (name : Text) (arguments : List Expression) : Expression :=
  let is (k : String) := Text.upper name == k.toList
  if is "NOW" && arguments.isEmpty || is "CURRENT_TIMESTAMP" then .verbatim "CURRENT_TIMESTAMP".toList
  else if is "CURRENT_DATE" && arguments.isEmpty then .verbatim "CURRENT_DATE".toList
  else if is "CURRENT_USER" && arguments.isEmpty then .verbatim "CURRENT_USER".toList
  else if is "CEILING" then .call "CEIL".toList arguments
  else if is "LEN" || is "CHAR_LENGTH" || is "CHARACTER_LENGTH" then
    .call "LENGTH".toList arguments
  else if is "SUBSTRING" || is "SUBSTR" then substringOf arguments
  else match arguments with
    | [a, b] =>
      if is "POWER" || is "POW" then .binary ['^'] [] a b
      else if is "MOD" then .binary ['%'] [] a b
      else if is "DATE_TRUNC" then .call "DATE_TRUNC".toList [capitals a, b]
      else if is "DATE_PART" then
        .call "EXTRACT".toList [.phrase [withoutQuotes a, .verbatim "FROM".toList, b]]
      else .call (Text.upper name) arguments
    | _ => .call (Text.upper name) arguments

/-- Keywords that stand for a value without parentheses, with their printed form. -/
def bareValues : List (String × String) := [
  ("NULL", "NULL"), ("TRUE", "TRUE"), ("FALSE", "FALSE"),
  ("CURRENT_TIMESTAMP", "CURRENT_TIMESTAMP"), ("CURRENT_DATE", "CURRENT_DATE"),
  ("CURRENT_TIME", "CURRENT_TIME()"), ("CURRENT_USER", "CURRENT_USER"),
  ("SESSION_USER", "SESSION_USER"), ("CURRENT_CATALOG", "CURRENT_CATALOG"),
  ("LOCALTIME", "LOCALTIME"), ("LOCALTIMESTAMP", "LOCALTIMESTAMP")]

/-- The printed form of a literal. -/
def literal? (t : Token) : Option Text :=
  match t.kind with
  | .string | .dollar => some (inQuotes '\'' t.text)
  | .escaped => some ('e' :: inQuotes '\'' t.text)
  | .bits => some ('b' :: inQuotes '\'' t.text)
  | .hex => some ('x' :: inQuotes '\'' t.text)
  | .national => some ('N' :: inQuotes '\'' t.text)
  | .number => some t.text
  | _ => none

/-- A number and a unit, when a text consists of just these, the unit in capitals. -/
def span? (t : Text) : Option Text :=
  let t := Text.trim t
  let (minus, rest) := match t with
    | '-' :: rest => (['-'], rest)
    | _ => ([], t)
  let ascii := fun c : Char => '0' ≤ c && c ≤ '9'
  let whole := rest.takeWhile ascii
  let (fraction, rest) := match rest.dropWhile ascii with
    | '.' :: rest =>
      if (rest.takeWhile ascii).isEmpty then ([], '.' :: rest)
      else ('.' :: rest.takeWhile ascii, rest.dropWhile ascii)
    | rest => ([], rest)
  let unit := Text.skipBlanks rest
  if !whole.isEmpty && !unit.isEmpty && unit.all Char.isAlpha then
    some (minus ++ whole ++ fraction ++ ' ' :: Text.upper unit)
  else none

/-- The length of time after `INTERVAL`, in one string. -/
def intervalOf (length : Text) (unit : Option Text) : Expression :=
  let text := match unit with
    | some unit => length ++ ' ' :: Text.upper unit
    | none => (span? length).getD length
  .verbatim ("INTERVAL ".toList ++ inQuotes '\'' text)

/-- An interval with its length; the word alone may also be a name. -/
def interval? : Operand := attempt? do
  if ← word "INTERVAL" then
    match ← take? fun t => t.kind == .string || t.kind == .number with
    | none => return none
    | some length =>
      let single := (span? length.text).isSome || length.text.any Char.isAlpha
      let unit ← if single then pure none else plainWord?
      return some (intervalOf length.text (unit.map (·.text)))
  else return none

/-- A string after the name of a built-in type is a value of that type. -/
def typedLiteral? : Operand := attempt? do
  match ← builtInType? with
  | none => return none
  | some type =>
    match ← withRemarks (take? (·.kind == .string)) with
    | (some t, remarks) =>
      return some (.cast (.note (.verbatim (inQuotes '\'' t.text)) remarks) type)
    | (none, _) => return none

/-- The names before the last dot of a name, and the last one. -/
def qualified : Nat → Token → Reading (List Token × Token)
  | 0, t => return ([], t)
  | fuel + 1, t => do
    if ← sign "." then
      let (before, last) ← qualified fuel (← need? anyName?)
      return (t :: before, last)
    else return ([], t)

/-- A name with the names after its dots, and a call if parentheses follow. -/
def named (inner : Operand) (first : Token) : Reading Expression := do
  let (before, last) ← qualified (← get).length first
  let front := before.flatMap (·.written ++ ['.'])
  if ← sees (·.isSign "(") then
    let items ← enclosed inner
    if last.kind == .quotedName then return .call (front ++ last.written) items
    if before.isEmpty then return callOf last.text items
    return .call (front ++ Text.upper last.text) items
  else return .verbatim (front ++ last.written)

/-- The branches of a `CASE`, as parts of a phrase. -/
def branches (inner : Operand) : Nat → Reading (List Expression)
  | 0 => failure
  | fuel + 1 => do
    if ← word "WHEN" then
      let condition ← need? inner
      need (word "THEN")
      let value ← need? inner
      return [.verbatim "WHEN".toList, condition, .verbatim "THEN".toList, value]
        ++ (← branches inner fuel)
    else
      let otherwise ← if ← word "ELSE" then
          pure [.verbatim "ELSE".toList, ← need? inner]
        else pure []
      need (word "END")
      return otherwise ++ [.verbatim "END".toList]

def case (inner : Operand) : Reading Expression := do
  let subject ← if ← sees (·.isWord "WHEN") then pure [] else
    pure [← need? inner]
  return .phrase (.verbatim "CASE".toList :: subject ++ (← branches inner (← get).length))

/-- Whether a keyword and an opening parenthesis follow; both are taken. -/
def opens (k : String) : Reading Bool := do
  match ← get with
  | t :: p :: rest =>
    if t.isWord k && p.isSign "(" then set rest; return true else return false
  | _ => return false

/-- An expression that starts with a word or a quoted name. -/
def wordly? (inner : Operand) : Operand := do
  if let some e ← interval? then return some e
  if let some e ← typedLiteral? then return some e
  if ← opens "CAST" then
    let e ← need? inner
    need (word "AS")
    let type ← need? (typeName? false)
    need (sign ")")
    return some (.cast e type)
  if ← opens "EXTRACT" then
    let part ← need? (take? fun t => t.kind == .word || t.kind == .string)
    need (word "FROM")
    let e ← need? inner
    need (sign ")")
    let text := if part.kind == .string then inQuotes '\'' part.text else Text.upper part.text
    return some (.call "EXTRACT".toList [.phrase [.verbatim text, .verbatim "FROM".toList, e]])
  if ← opens "SUBSTRING" then
    let items ← listed inner (← get).length.succ
    let start ← if ← word "FROM" then some <$> need? inner else pure none
    let length ← if ← word "FOR" then some <$> need? inner else pure none
    need (sign ")")
    let start := if length.isSome then start.or (some (.verbatim ['1'])) else start
    return some (substringOf (items ++ start.toList ++ length.toList))
  if ← word "CASE" then return some (← case inner)
  match ← get with
  | t :: rest =>
    let called := rest.head?.any (·.isSign "(")
    match bareValues.find? fun entry => t.isWord entry.1 && !called with
    | some (_, text) => set rest; return some (.verbatim text.toList)
    | none =>
      if t.isWord "ARRAY" && rest.head?.any (·.isSign "[") then
        set (rest.drop 1)
        let items ← listed inner rest.length.succ
        need (sign "]")
        return some (.array items)
      else if isName t then set rest; return some (← named inner t)
      else return none
  | [] => return none

/-- Strings that stand one after the other. -/
def strings : List Token → List Text × List Token
  | [] => ([], [])
  | t :: ts =>
    if t.kind == .string then
      let found := strings ts
      (inQuotes '\'' t.text :: found.1, found.2)
    else ([], t :: ts)

/-- A literal, a name, a call or an expression in parentheses. -/
def primary? (inner : Operand) : Operand := do
  match ← get with
  | [] => return none
  | t :: rest =>
    match literal? t with
    | some text =>
      match if t.kind == .string then strings rest else ([], rest) with
      | ([], rest) => set rest; return some (.verbatim text)
      | (texts, rest) =>
        set rest
        return some (.call "CONCAT".toList ((text :: texts).map .verbatim))
    | none =>
      if t.isSign "." then
        match rest with
        | n :: rest =>
          if n.kind == .number then set rest; return some (.verbatim ("0.".toList ++ n.text))
          else return none
        | [] => return none
      else if t.isSign "*" then set rest; return some (.verbatim ['*'])
      else if t.isSign "(" then
        set rest
        let items ← listed inner rest.length.succ
        need (sign ")")
        return some (.group items)
      else wordly? inner

/-- What follows an operand: casts, brackets and paths into documents. -/
def suffixes (inner : Operand) (e : Expression) : Nat → Reading Expression
  | 0 => return e
  | fuel + 1 => do
    if ← sign "::" then
      let (type, remarks) ← withRemarks (need? (typeName? false))
      suffixes inner (.note (.cast e type) (if type.remarks.isEmpty then remarks else [])) fuel
    else if ← sign "[" then
      let (items, remarks) ← withRemarks do
        let items ← listed inner (← get).length.succ
        need (sign "]")
        return items
      suffixes inner (.note (.index e items) remarks) fuel
    else
      match ← signOperator [("->", "->"), ("->>", "->>"), ("#>", "#>"), ("#>>", "#>>")] with
      | some (text, remarks) =>
        let (right, after) ← withRemarks (need? (primary? inner))
        suffixes inner (.binary text remarks e (.note right after)) fuel
      | none => return e

/-- An operand with the signs before it and the casts after it. -/
def unary : Nat → Operand
  | 0 => failure
  | fuel + 1 => do
    let deeper := unary fuel
    let inner := disjunction deeper deeper
    if ← sign "+" then deeper
    else if ← sign "-" then return some (.lead ['-'] (← need? deeper))
    else if ← word "NOT" then return some (.lead "NOT".toList (← need? (equality inner deeper)))
    else
      match ← withRemarks (primary? inner) with
      | (some e, remarks) => some <$> suffixes inner (.note e remarks) (← get).length.succ
      | (none, _) => return none

/-- A whole expression. -/
def expression? : Operand := do
  let u := unary (← get).length.succ
  disjunction u u

/-- An expression without tests and connectives at its top. -/
def value? : Operand := do bitwise (unary (← get).length.succ)

end SchemaDiagram.Postgres.Reading
