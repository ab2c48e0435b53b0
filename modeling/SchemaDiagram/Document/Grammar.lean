import SchemaDiagram.Document.Basic

/-!
Reading documents. Each reading answers what it finds and what follows it, and nothing where the
grammar is broken.
-/
namespace SchemaDiagram.Document

/-- Skips the white space of documents, which is narrower than that of scripts. -/
def skipSpace (t : Text) : Text :=
  t.dropWhile fun c => c = ' ' || c = '\t' || c = '\n' || c = '\r'

def hexValue? (c : Char) : Option Nat :=
  if '0' ≤ c ∧ c ≤ '9' then some (c.toNat - 48)
  else if 'a' ≤ c ∧ c ≤ 'f' then some (c.toNat - 87)
  else if 'A' ≤ c ∧ c ≤ 'F' then some (c.toNat - 55)
  else none

/-- Four digits to the base sixteen. -/
def unit? : Text → Option (Nat × Text)
  | a :: b :: c :: d :: t => do
    let n := ((← hexValue? a) * 16 + (← hexValue? b)) * 256
    some (n + (← hexValue? c) * 16 + (← hexValue? d), t)
  | _ => none

/-- The character that one number or a pair of numbers stands for. -/
def character? (t : Text) : Option (Char × Text) := do
  let (high, rest) ← unit? t
  if 0xD800 ≤ high ∧ high < 0xDC00 then
    match rest with
    | '\\' :: 'u' :: more =>
      let (low, after) ← unit? more
      if 0xDC00 ≤ low ∧ low < 0xE000 then
        some (Char.ofNat (0x10000 + (high - 0xD800) * 0x400 + (low - 0xDC00)), after)
      else some (Char.ofNat high, rest)
    | _ => some (Char.ofNat high, rest)
  else some (Char.ofNat high, rest)

/-- The character that a letter after a backslash stands for. -/
def plainEscape? (c : Char) : Option Char :=
  if c = '"' || c = '\\' || c = '/' then some c
  else if c = 'b' then some '\x08'
  else if c = 'f' then some '\x0c'
  else if c = 'n' then some '\n'
  else if c = 'r' then some '\r'
  else if c = 't' then some '\t'
  else none

/-- The rest of a string after its opening quote. -/
def string? : Nat → Text → Option (Text × Text)
  | 0, _ | _, [] => none
  | _ + 1, '"' :: t => some ([], t)
  | fuel + 1, '\\' :: 'u' :: t => do
    let (c, t) ← character? t
    let (text, t) ← string? fuel t
    some (c :: text, t)
  | fuel + 1, '\\' :: c :: t => do
    let c ← plainEscape? c
    let (text, t) ← string? fuel t
    some (c :: text, t)
  | fuel + 1, c :: t =>
    if c.toNat < 0x20 || c = '\\' then none
    else (string? fuel t).map fun found => (c :: found.1, found.2)

def isAsciiDigit (c : Char) : Bool := '0' ≤ c && c ≤ '9'

/-- Digits at the front of a text, at least one. -/
def digits? (t : Text) : Option (Text × Text) :=
  if (t.takeWhile isAsciiDigit).isEmpty then none
  else some (t.takeWhile isAsciiDigit, t.dropWhile isAsciiDigit)

/-- The whole part of a number, in which nothing follows a zero in front. -/
def whole? : Text → Option (Text × Text)
  | '0' :: t => some (['0'], t)
  | t => digits? t

/-- The fraction of a number, if there is one. -/
def fraction : Text → Text × Text
  | '.' :: t =>
    match digits? t with
    | some (ds, rest) => ('.' :: ds, rest)
    | none => ([], '.' :: t)
  | t => ([], t)

/-- The power of ten of a number, if there is one. -/
def exponent : Text → Text × Text
  | e :: t =>
    if e = 'e' || e = 'E' then
      let (sign, ds) := match t with
        | '+' :: ds => (['+'], ds)
        | '-' :: ds => (['-'], ds)
        | ds => ([], ds)
      match digits? ds with
      | some (ds, rest) => (e :: sign ++ ds, rest)
      | none => ([], e :: t)
    else ([], e :: t)
  | [] => ([], [])

def number? (t : Text) : Option (Document × Text) := do
  let (sign, t) := match t with
    | '-' :: t => (['-'], t)
    | _ => ([], t)
  let (whole, t) ← whole? t
  let (fraction, t) := fraction t
  let (power, t) := exponent t
  some (.number (sign ++ whole ++ fraction ++ power), t)

/-- The words that stand for values. -/
def words : List (String × Document) := [
  ("null", .null), ("true", .bool true), ("false", .bool false), ("NaN", .number "NaN".toList),
  ("Infinity", .number "Infinity".toList), ("-Infinity", .number "-Infinity".toList)]

def word? (t : Text) : Option (Document × Text) :=
  words.findSome? fun entry => (Text.after? entry.1.toList t).map (entry.2, ·)

mutual
/-- A value at the front of a text. -/
def value? : Nat → Text → Option (Document × Text)
  | 0, _ => none
  | fuel + 1, t =>
    match t with
    | '"' :: t => (string? t.length.succ t).map fun found => (.string found.1, found.2)
    | '[' :: t =>
      match skipSpace t with
      | ']' :: t => some (.array [], t)
      | t => (items? fuel t).map fun found => (.array found.1, found.2)
    | '\x7b' :: t =>
      match skipSpace t with
      | '\x7d' :: t => some (.object [], t)
      | t => (fields? fuel t).map fun found => (.object found.1, found.2)
    | t => (word? t).or (number? t)

/-- Values with commas between them, up to the closing bracket. -/
def items? : Nat → Text → Option (List Document × Text)
  | 0, _ => none
  | fuel + 1, t => do
    let (item, t) ← value? fuel (skipSpace t)
    match skipSpace t with
    | ',' :: t =>
      let (items, t) ← items? fuel t
      some (item :: items, t)
    | ']' :: t => some ([item], t)
    | _ => none

/-- Named values with commas between them, up to the closing brace. -/
def fields? : Nat → Text → Option (List (Text × Document) × Text)
  | 0, _ => none
  | fuel + 1, t => do
    let t ← Text.after? ['"'] (skipSpace t)
    let (name, t) ← string? t.length.succ t
    let t ← Text.after? [':'] (skipSpace t)
    let (value, t) ← value? fuel (skipSpace t)
    match skipSpace t with
    | ',' :: t =>
      let (fields, t) ← fields? fuel t
      some ((name, value) :: fields, t)
    | '\x7d' :: t => some ([(name, value)], t)
    | _ => none
end

/-- The one value of a document, which may start with a byte order mark. -/
def read? (t : Text) : Option Document :=
  let t := match t with
    | '\ufeff' :: t => t
    | t => t
  match value? (2 * t.length + 1) (skipSpace t) with
  | some (value, rest) => if (skipSpace rest).isEmpty then some value else none
  | none => none

end SchemaDiagram.Document
