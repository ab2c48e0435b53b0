import Mathlib.Data.List.Forall2
import SchemaDiagram.Batch
import SchemaDiagram.Proofs.Schema.Frame

/-!
Two schemas that are related column by column. A relation of columns that constraints keep is kept
by all that keys do to tables and to schemas.
-/
namespace SchemaDiagram

variable {R : Column → Column → Prop} {c d : Column} {t u : Table} {s s' : Schema} {name : Text}

/-- A relation between columns of the same name that their constraints keep. -/
structure Column.Steady (R : Column → Column → Prop) : Prop where
  name : ∀ {c d}, R c d → c.name = d.name
  markPrimary : ∀ {c d}, R c d → R c.markPrimary d.markPrimary
  markUnique : ∀ {c d}, R c d → R c.markUnique d.markUnique
  pointAt : ∀ {c d} (table column), R c d → R (c.pointAt table column) (d.pointAt table column)

/-- Two tables of the same name with related columns at the same places. -/
structure Table.Related (R : Column → Column → Prop) (t u : Table) : Prop where
  name : t.name = u.name
  columns : List.Forall₂ R t.columns u.columns

theorem forall₂_modify_modify {α β : Type} {R : α → β → Prop} {f : α → α} {g : β → β}
    {as : List α} {bs : List β} (h : List.Forall₂ R as bs) (hf : ∀ {a b}, R a b → R (f a) (g b))
    (i : Nat) : List.Forall₂ R (as.modify i f) (bs.modify i g) := by
  induction h generalizing i with
  | nil => simp
  | cons hr hrest ih =>
    cases i with
    | zero => exact List.Forall₂.cons (hf hr) hrest
    | succ i => exact List.Forall₂.cons hr (ih i)

namespace Table

/-- Related tables give their columns the same places. -/
theorem Related.position? (hR : Column.Steady R) (h : t.Related R u) (name : Text) :
    t.position? name = u.position? name := by
  have hnames : t.columnNames = u.columnNames := by
    rw [columnNames, columnNames, ← List.forall₂_eq_eq_eq, List.forall₂_map_left_iff,
      List.forall₂_map_right_iff]
    exact h.columns.imp fun _ _ => hR.name
  rw [position?_eq, position?_eq, hnames]

theorem Related.declare (hR : Column.Steady R) (h : t.Related R u) (hc : R c d) :
    (t.declare c).Related R (u.declare d) := by
  have hplace := h.position? hR c.name
  unfold Table.declare
  rw [isSome_column?, isSome_column?, hplace, hR.name hc]
  split
  · exact h
  · exact ⟨h.name, List.rel_append h.columns (.cons hc .nil)⟩

theorem Related.changeColumn {change : Column → Column} (hR : Column.Steady R) (h : t.Related R u)
    (hc : ∀ {c d}, R c d → R (change c) (change d)) (name : Text) :
    (t.changeColumn name change).Related R (u.changeColumn name change) := by
  have hplace := h.position? hR name
  unfold Table.position? at hplace
  refine ⟨by rw [changeColumn_name, changeColumn_name, h.name], ?_⟩
  unfold Table.changeColumn
  rw [hplace]
  split
  · exact forall₂_modify_modify h.columns hc _
  · exact h.columns

theorem Related.applyPrimary (hR : Column.Steady R) (h : t.Related R u) (columns : List Text) :
    (t.applyPrimary columns).Related R (u.applyPrimary columns) := by
  unfold Table.applyPrimary
  induction columns generalizing t u with
  | nil => exact h
  | cons name names ih => exact ih (h.changeColumn hR hR.markPrimary name)

theorem Related.applyUnique (hR : Column.Steady R) (h : t.Related R u) (columns : List Text) :
    (t.applyUnique columns).Related R (u.applyUnique columns) := by
  unfold Table.applyUnique
  split
  · exact h.changeColumn hR hR.markUnique _
  · exact h

/-- Two keys with the same pairs and the same target do the same. -/
theorem Related.applyForeign {k l : ForeignKey} (hR : Column.Steady R) (h : t.Related R u)
    (hp : k.pairs = l.pairs) (ht : k.refTable = l.refTable) :
    (t.applyForeign k).Related R (u.applyForeign l) := by
  unfold Table.applyForeign
  rw [hp, ht]
  induction l.pairs generalizing t u with
  | nil => exact h
  | cons pair pairs ih => exact ih (h.changeColumn hR (hR.pointAt _ _) pair.1)

end Table

/-- Two schemas with related tables at the same places. -/
abbrev Schema.Related (R : Column → Column → Prop) (s s' : Schema) : Prop :=
  List.Forall₂ (Table.Related R) s s'

/-- Declarations of related tables and of the same keys. -/
structure Declarations.Related (R : Column → Column → Prop) (found found' : Declarations) : Prop where
  tables : Schema.Related R found.tables found'.tables
  primaryKeys : found.primaryKeys = found'.primaryKeys
  foreignKeys : found.foreignKeys = found'.foreignKeys

namespace Schema

/-- Related schemas give their tables the same places. -/
theorem Related.position? (h : s.Related R s') (name : Text) : s.position? name = s'.position? name := by
  have hnames : s.tableNames = s'.tableNames := by
    rw [tableNames, tableNames, ← List.forall₂_eq_eq_eq, List.forall₂_map_left_iff,
      List.forall₂_map_right_iff]
    exact h.imp fun _ _ => Table.Related.name
  rw [position?_eq, position?_eq, hnames]

theorem Related.changeTable {change : Table → Table} (h : s.Related R s')
    (hc : ∀ {t u : Table}, t.Related R u → (change t).Related R (change u)) (name : Text) :
    (s.changeTable name change).Related R (s'.changeTable name change) := by
  unfold Schema.changeTable
  rw [h.position? name]
  split
  · exact forall₂_modify_modify h hc _
  · exact h

theorem Related.applyPrimaryKeys (hR : Column.Steady R) (h : s.Related R s') (keys : List PrimaryKey) :
    (s.applyPrimaryKeys keys).Related R (s'.applyPrimaryKeys keys) := by
  unfold Schema.applyPrimaryKeys
  induction keys generalizing s s' with
  | nil => exact h
  | cons k keys ih => exact ih (h.changeTable (fun ht => ht.applyPrimary hR k.columns) k.table)

theorem Related.applyForeignKeys (hR : Column.Steady R) (h : s.Related R s') (keys : List ForeignKey) :
    (s.applyForeignKeys keys).Related R (s'.applyForeignKeys keys) := by
  unfold Schema.applyForeignKeys
  induction keys generalizing s s' with
  | nil => exact h
  | cons k keys ih => exact ih (h.changeTable (fun ht => ht.applyForeign hR rfl rfl) k.table)

/-- Scripts that declare related tables and the same keys leave related schemas. -/
theorem Related.extend {found found' : Declarations} (hR : Column.Steady R) (h : s.Related R s')
    (hfound : found.Related R found') (recovered : List ForeignKey) :
    (s.extend found recovered).Related R (s'.extend found' recovered) := by
  unfold Schema.extend
  rw [hfound.primaryKeys, hfound.foreignKeys]
  have hall : Schema.Related R (s ++ found.tables) (s' ++ found'.tables) :=
    List.rel_append h hfound.tables
  exact ((hall.applyPrimaryKeys hR _).applyForeignKeys hR _).applyForeignKeys hR _

end Schema
end SchemaDiagram
