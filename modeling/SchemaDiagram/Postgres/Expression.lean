import SchemaDiagram.Postgres.TypeName

/-! Expressions as they stand for default values, and their one printed form. -/
namespace SchemaDiagram.Postgres

inductive Expression where
  /-- A literal, a name or a keyword, printed as it is. -/
  | verbatim (text : Text)
  /-- A sign or a keyword before an operand. -/
  | lead (operator : Text) (operand : Expression)
  /-- An operator between two operands, with the comments that stand after it. -/
  | binary (operator : Text) (remarks : List Text) (left right : Expression)
  | call (function : Text) (arguments : List Expression)
  | cast (operand : Expression) (type : TypeName)
  /-- One expression in parentheses, or several. -/
  | group (items : List Expression)
  | array (items : List Expression)
  /-- An operand with brackets after it. -/
  | index (operand : Expression) (items : List Expression)
  /-- Parts that stand one after the other. -/
  | phrase (parts : List Expression)
  /-- An expression with the comments that stand after it. -/
  | noted (operand : Expression) (remarks : List Text)

namespace Expression

/-- Adds the comments that stand after an expression, if any. -/
def note (e : Expression) (remarks : List Text) : Expression :=
  if remarks.isEmpty then e else .noted e remarks

/-- A minus that stands before another one keeps apart from it. -/
def leadText (operator operand : Text) : Text :=
  match operator, operand with
  | ['-'], '-' :: _ => operator ++ ' ' :: operand
  | ['-'], _ => operator ++ operand
  | _, _ => operator ++ ' ' :: operand

mutual
/-- The printed form: keywords and functions in capitals, one blank around operators. -/
def render : Expression → Text
  | verbatim text => text
  | lead operator operand => leadText operator (render operand)
  | binary operator remarks left right =>
    render left ++ ' ' :: operator ++ remarks.flatMap remark ++ ' ' :: render right
  | call function arguments => function ++ '(' :: Text.join ", ".toList (renderAll arguments) ++ [')']
  | cast operand type =>
    "CAST(".toList ++ render operand ++ " AS ".toList ++ type.render ++ [')']
  | group items => '(' :: Text.join ", ".toList (renderAll items) ++ [')']
  | array items => "ARRAY[".toList ++ Text.join ", ".toList (renderAll items) ++ [']']
  | index operand items =>
    render operand ++ '[' :: Text.join ", ".toList (renderAll items) ++ [']']
  | phrase parts => Text.join [' '] (renderAll parts)
  | noted operand remarks => render operand ++ remarks.flatMap remark

def renderAll : List Expression → List Text
  | [] => []
  | e :: es => render e :: renderAll es
end

end Expression
end SchemaDiagram.Postgres
