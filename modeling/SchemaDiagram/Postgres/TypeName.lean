import SchemaDiagram.Postgres.Reading

/-!
Type names. A type that is built in has one spelling, whatever the script calls it; any other
type keeps the name that it is given.
-/
namespace SchemaDiagram.Postgres

/-- A type: its name, what stands in parentheses after it, and the content of its brackets. -/
structure TypeName where
  base : Text
  arguments : List Text := []
  arrays : List Text := []
  remarks : List Text := []
deriving DecidableEq

/-- A comment as it is printed: blanks around it, and no mark that would end it. -/
def remark : Text → Text
  | [] => []
  | c :: t =>
    let text := shut (c :: t)
    let front := if Text.isBlank c then [] else [' ']
    let back := if (text.getLast?.elim false Text.isBlank) then [] else [' ']
    " /*".toList ++ front ++ text ++ back ++ "*/".toList
where
  /-- Parts the star from the slash of a closing mark. -/
  shut : Text → Text
    | '*' :: '/' :: t => '*' :: ' ' :: '/' :: shut t
    | c :: t => c :: shut t
    | [] => []

/-- A name in quotes; a quote in it is written twice. -/
def inQuotes (quote : Char) (t : Text) : Text :=
  quote :: t.flatMap (fun c => if c = quote then [c, c] else [c]) ++ [quote]

/-- A name as it is written, in quotes if it has them. -/
def Token.written (t : Token) : Text :=
  if t.kind == .quotedName then inQuotes '"' t.text else t.text

namespace TypeName

def render (t : TypeName) : Text :=
  t.base ++ (if t.arguments.isEmpty then [] else '(' :: Text.join ", ".toList t.arguments ++ [')'])
    ++ t.arrays.flatMap (fun size => '[' :: size ++ [']']) ++ t.remarks.flatMap remark

/-- The one spelling of each type that is built in. -/
def builtIn : List (String × String) := [
  ("INT", "INT"), ("INTEGER", "INT"), ("INT4", "INT"), ("SIGNED", "INT"),
  ("BIGINT", "BIGINT"), ("INT8", "BIGINT"), ("LONG", "BIGINT"),
  ("SMALLINT", "SMALLINT"), ("INT2", "SMALLINT"), ("SHORT", "SMALLINT"),
  ("TINYINT", "SMALLINT"), ("INT1", "SMALLINT"), ("BYTE", "SMALLINT"),
  ("MEDIUMINT", "MEDIUMINT"), ("INT16", "SMALLINT"), ("INT32", "INT"), ("INT64", "BIGINT"),
  ("INT128", "INT128"), ("HUGEINT", "INT128"), ("INT256", "INT256"), ("UINT", "UINT"),
  ("SERIAL", "SERIAL"), ("BIGSERIAL", "BIGSERIAL"), ("SMALLSERIAL", "SMALLSERIAL"),
  ("REAL", "REAL"), ("FLOAT4", "REAL"),
  ("FLOAT", "DOUBLE PRECISION"), ("FLOAT8", "DOUBLE PRECISION"), ("DOUBLE", "DOUBLE PRECISION"),
  ("NUMERIC", "DECIMAL"), ("DECIMAL", "DECIMAL"), ("DEC", "DECIMAL"), ("NUMBER", "DECIMAL"),
  ("FIXED", "DECIMAL"), ("BIGDECIMAL", "BIGDECIMAL"), ("BIGNUMERIC", "BIGDECIMAL"),
  ("CHAR", "CHAR"), ("CHARACTER", "CHAR"), ("NCHAR", "CHAR"), ("BPCHAR", "BPCHAR"),
  ("VARCHAR", "VARCHAR"), ("VARCHAR2", "VARCHAR"), ("NVARCHAR", "VARCHAR"),
  ("NVARCHAR2", "VARCHAR"), ("TEXT", "TEXT"), ("STRING", "TEXT"), ("CLOB", "TEXT"),
  ("LONGTEXT", "TEXT"), ("MEDIUMTEXT", "TEXT"), ("TINYTEXT", "TEXT"), ("LONGVARCHAR", "TEXT"),
  ("BYTEA", "BYTEA"), ("BLOB", "BYTEA"), ("BINARY", "BYTEA"), ("VARBINARY", "BYTEA"),
  ("LONGBLOB", "BLOB"), ("MEDIUMBLOB", "BLOB"), ("TINYBLOB", "BLOB"),
  ("BOOL", "BOOLEAN"), ("BOOLEAN", "BOOLEAN"),
  ("DATE", "DATE"), ("DATE32", "DATE"), ("TIME", "TIME"), ("TIMETZ", "TIMETZ"),
  ("TIMESTAMP", "TIMESTAMP"), ("TIMESTAMPTZ", "TIMESTAMPTZ"), ("TIMESTAMPNTZ", "TIMESTAMP"),
  ("TIMESTAMP_NTZ", "TIMESTAMP"), ("TIMESTAMP_TZ", "TIMESTAMPTZ"),
  ("TIMESTAMPLTZ", "TIMESTAMPLTZ"), ("TIMESTAMP_LTZ", "TIMESTAMPLTZ"),
  ("DATETIME", "TIMESTAMP"), ("YEAR", "YEAR"), ("INTERVAL", "INTERVAL"),
  ("UUID", "UUID"), ("JSON", "JSON"), ("JSONB", "JSONB"), ("XML", "XML"), ("INET", "INET"),
  ("IPADDRESS", "IPADDRESS"), ("IPPREFIX", "IPPREFIX"), ("IPV4", "IPV4"), ("IPV6", "IPV6"),
  ("MONEY", "MONEY"), ("SMALLMONEY", "SMALLMONEY"), ("NAME", "NAME"), ("POINT", "POINT"),
  ("HSTORE", "HSTORE"), ("GEOMETRY", "GEOMETRY"), ("GEOGRAPHY", "GEOGRAPHY"),
  ("VECTOR", "VECTOR"), ("BIT", "BIT"), ("ENUM", "ENUM"), ("CSTRING", "CSTRING"),
  ("INT4RANGE", "INT4RANGE"), ("INT4MULTIRANGE", "INT4MULTIRANGE"),
  ("INT8RANGE", "INT8RANGE"), ("INT8MULTIRANGE", "INT8MULTIRANGE"),
  ("NUMRANGE", "NUMRANGE"), ("NUMMULTIRANGE", "NUMMULTIRANGE"),
  ("TSRANGE", "TSRANGE"), ("TSMULTIRANGE", "TSMULTIRANGE"),
  ("TSTZRANGE", "TSTZRANGE"), ("TSTZMULTIRANGE", "TSTZMULTIRANGE"),
  ("DATERANGE", "DATERANGE"), ("DATEMULTIRANGE", "DATEMULTIRANGE"),
  ("OID", "OID"), ("REGCLASS", "REGCLASS"), ("REGCOLLATION", "REGCOLLATION"),
  ("REGCONFIG", "REGCONFIG"), ("REGDICTIONARY", "REGDICTIONARY"),
  ("REGNAMESPACE", "REGNAMESPACE"), ("REGOPER", "REGOPER"), ("REGOPERATOR", "REGOPERATOR"),
  ("REGPROC", "REGPROC"), ("REGPROCEDURE", "REGPROCEDURE"), ("REGROLE", "REGROLE"),
  ("REGTYPE", "REGTYPE"), ("NULL", "NULL"), ("UNKNOWN", "UNKNOWN"), ("VARIANT", "VARIANT"),
  ("SUPER", "SUPER"), ("OBJECT", "OBJECT"), ("IMAGE", "IMAGE"), ("\x60", "UNKNOWN")]

/-- Types whose name has several words; the first words of a longer name are tried last. -/
def builtInPhrases : List (List String × String) := [
  (["CHARACTER", "VARYING"], "VARCHAR"), (["CHAR", "VARYING"], "VARCHAR"),
  (["CHARACTER", "LARGE", "OBJECT"], "TEXT"), (["CHAR", "LARGE", "OBJECT"], "TEXT"),
  (["BINARY", "VARYING"], "BYTEA"), (["BINARY", "LARGE", "OBJECT"], "BYTEA"),
  (["DOUBLE", "PRECISION"], "DOUBLE PRECISION")]

/-- The counterpart of a type without negative numbers. -/
def unsigned : List (String × String) := [
  ("INT", "UINT"), ("BIGINT", "UBIGINT"), ("SMALLINT", "USMALLINT"), ("MEDIUMINT", "UMEDIUMINT"),
  ("DECIMAL", "UDECIMAL"), ("DOUBLE PRECISION", "UDOUBLE")]

end TypeName

namespace Reading

/-- The spelling of a type that is built in, where the next words or a quoted name are one. -/
def builtIn? : Reading (Option Text) := do
  let ts ← get
  match TypeName.builtInPhrases.find? fun entry => startsWith entry.1 ts with
  | some (ws, spelling) => set (ts.drop ws.length); return some spelling.toList
  | none =>
    match ts with
    | t :: rest =>
      match TypeName.builtIn.find? fun entry => t.spells entry.1 with
      | some (_, spelling) => set rest; return some spelling.toList
      | none => return none
    | [] => return none

/-- One argument of a type: a number, a string or a word in capitals, and a unit after it. -/
def typeArgument? : Reading (Option Text) := do
  let value ← do
    match ← take? fun t => t.kind == .number || t.kind == .string || t.kind == .word
        || t.kind == .quotedName with
    | some t => match t.kind with
      | .string => pure (some (inQuotes '\'' t.text))
      | .number => pure (some t.text)
      | _ => pure (some (Text.upper t.text))
    | none => if ← sign "-" then
        (some ∘ ('-' :: ·.text)) <$> need? (take? (·.kind == .number)) else pure none
  match value with
  | none => return none
  | some value =>
    match ← anyName? with
    | some unit => return some (value ++ ' ' :: unit.text)
    | none => return some value

/-- The arguments of a type, if any. -/
def typeArguments : Reading (List Text) := do
  let found ← attempt? do
    if ← sign "(" then
      let found ← listed typeArgument? (← get).length.succ
      if !found.isEmpty && (← sign ")") then return some found else return none
    else return none
  return found.getD []

/-- Brackets after a type; only a declaration gives a size. -/
def brackets (sized : Bool) : Nat → Reading (List Text)
  | 0 => return []
  | fuel + 1 => do
    let one ← attempt? do
      if ← sign "[" then
        let size ← if sized then take? (·.kind == .number) else pure none
        need (sign "]")
        return some (size.elim [] (·.text))
      else return none
    match one with
    | some size => return size :: (← brackets sized fuel)
    | none => return []

/-- Array brackets, with or without the word in front of them. -/
def arrays (sized : Bool) : Reading (List Text) := do
  let fuel := (← get).length
  if ← word "ARRAY" then
    let found ← brackets sized fuel
    return if found.isEmpty then [[]] else found
  else brackets sized fuel

/-- The time zone of a type that holds a time of day. -/
def zoned (base : Text) : Reading Text := do
  if base == "TIME".toList || base == "TIMETZ".toList || base == "TIMESTAMP".toList
      || base == "TIMESTAMPTZ".toList then
    if ← words ["WITH", "TIME", "ZONE"] then
      return if base == "TIME".toList || base == "TIMETZ".toList then "TIMETZ".toList
        else "TIMESTAMPTZ".toList
    else if ← words ["WITH", "LOCAL", "TIME", "ZONE"] then return "TIMESTAMPLTZ".toList
    else
      let _ ← words ["WITHOUT", "TIME", "ZONE"]
      return base
  else return base

/-- The name of an interval, with its unit. -/
def interval : Reading Text := do
  match ← plainWord? with
  | none => return "INTERVAL".toList
  | some unit =>
    let span := "INTERVAL ".toList ++ Text.upper unit.text
    if ← word "TO" then
      match ← plainWord? with
      | some last => return span ++ " TO ".toList ++ Text.upper last.text
      | none => return span
    else return span

/-- A type that is built in, without its brackets. -/
def builtInType? : Reading (Option TypeName) := do
  match ← builtIn? with
  | none => return none
  | some base =>
    let arguments ← typeArguments
    if base == "INTERVAL".toList && arguments.isEmpty then
      return some { base := ← interval }
    else
      let base ← zoned base
      let base ← if ← word "UNSIGNED" then
          need? (pure ((TypeName.unsigned.find? (·.1.toList == base)).map (·.2.toList)))
        else pure base
      let base := if base == "DOUBLE PRECISION".toList && !arguments.isEmpty then "FLOAT".toList
        else base
      return some { base, arguments }

/-- The name of a type that a script declares, with the schemas before it. -/
def declaredName? : Reading (Option Text) := do
  match ← take? isPlainName with
  | none => return none
  | some t =>
    return some (t.written ++ (← after (← get).length))
where
  after : Nat → Reading Text
    | 0 => return []
    | fuel + 1 => do
      if ← sign "." then
        let t ← need? anyName?
        return '.' :: t.written ++ (← after fuel)
      else return []

/-- A type, where the next tokens name one. -/
def typeName? (sized : Bool) : Reading (Option TypeName) := do
  match ← builtInType? with
  | some t => return some { t with arrays := ← arrays sized }
  | none =>
    match ← withRemarks declaredName? with
    | (none, _) => return none
    | (some base, remarks) =>
      return some { base, arguments := ← typeArguments, arrays := ← arrays sized, remarks }

end Reading
end SchemaDiagram.Postgres
