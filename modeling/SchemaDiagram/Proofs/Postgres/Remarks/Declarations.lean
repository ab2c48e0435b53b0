import SchemaDiagram.Proofs.Postgres.Remarks.Statements
import SchemaDiagram.Proofs.Schema.Related

/-!
What comments reach of the tables that a PostgreSQL script declares: the printed forms of types and
of default values in which they stand, and nothing else.
-/
namespace SchemaDiagram

open Postgres

namespace Postgres

/-- The printed form of a default value in which comments stand. -/
def ColumnConstraint.noted : ColumnConstraint → List Text
  | .defaultValue value => if value.isNoted then [value.render] else []
  | _ => []

/-- The printed forms of a type and of default values in which comments stand. -/
def Element.noted : Element → List Text
  | .column _ type constraints =>
    ((type.filter TypeName.isNoted).map TypeName.render).toList ++
      constraints.flatMap ColumnConstraint.noted
  | .constraint _ | .named _ _ => []

def Statement.noted : Statement → List Text
  | .createTable _ elements => elements.flatMap Element.noted
  | .alterTable _ _ | .other => []

end Postgres

/-- Two columns that agree but for types and default values that stand in these lists. -/
structure Column.Alike (ts us : List Text) (c d : Column) : Prop where
  name : c.name = d.name
  type : c.type = d.type ∨ c.type ∈ ts ∧ d.type ∈ us
  isPrimary : c.isPrimary = d.isPrimary
  isUnique : c.isUnique = d.isUnique
  nullable : c.nullable = d.nullable
  defaultValue : Option.Rel (fun a b => a = b ∨ a ∈ ts ∧ b ∈ us) c.defaultValue d.defaultValue
  reference : c.reference = d.reference
  isForeign : c.isForeign = d.isForeign

namespace Postgres

variable {f : Text → Text} {ts us : List Text} {c d : Column} {t u : Table} {e e' : Element}
  {es es' : List Element} {found found' : Declarations} {s s' : Statement} {ss ss' : List Statement}

end Postgres
end SchemaDiagram
