import SchemaDiagram.Proofs.Schema.Building
import SchemaDiagram.Proofs.Schema.Frame

/-!
Consistent schemas. In every table a name means at most one column, and the columns that are
foreign keys are those that point somewhere, however the schema was built.
-/
namespace SchemaDiagram

variable {s : Schema} {t : Table} {c : Column} {name : Text} {found : Declarations}

/-- A column is a foreign key exactly when it points somewhere. -/
def Column.Consistent (c : Column) : Prop := c.isForeign = true ↔ ∃ r, c.reference = some r

/-- No two columns agree in lower case, and all of them are consistent. -/
structure Table.Consistent (t : Table) : Prop where
  nodup : (t.columns.map fun c => Text.lower c.name).Nodup
  column : ∀ c ∈ t.columns, c.Consistent

def Schema.Consistent (s : Schema) : Prop := ∀ t ∈ s, t.Consistent

namespace Column

theorem pointAt_consistent {table column : Text} : (c.pointAt table column).Consistent := by
  simp [Consistent, pointAt]

theorem markPrimary_consistent (h : c.Consistent) : c.markPrimary.Consistent := h

theorem markUnique_consistent (h : c.Consistent) : c.markUnique.Consistent := h

end Column

namespace Table

theorem consistent_of_empty (name : Text) : Consistent ⟨name, []⟩ :=
  ⟨List.nodup_nil, by simp⟩

theorem declare_consistent (ht : t.Consistent) (hc : c.Consistent) : (t.declare c).Consistent := by
  unfold declare
  split
  · exact ht
  · next hnew =>
    have hnew : ∀ d ∈ t.columns, Text.lower d.name ≠ Text.lower c.name := by
      simpa [column?, sameName] using hnew
    constructor
    · rw [List.map_append, List.nodup_append]
      refine ⟨ht.nodup, by simp, ?_⟩
      rintro a ha b hb
      obtain ⟨d, hd, rfl⟩ := List.mem_map.mp ha
      obtain rfl : b = Text.lower c.name := by simpa using hb
      exact hnew d hd
    · intro d hd
      rcases List.mem_append.mp hd with hd | hd
      · exact ht.column d hd
      · obtain rfl := List.mem_singleton.mp hd
        exact hc

/-- A change that keeps names keeps them apart. -/
theorem changeColumn_consistent {change : Column → Column} (hn : ∀ c, (change c).name = c.name)
    (hc : ∀ c, c.Consistent → (change c).Consistent) (ht : t.Consistent) :
    (t.changeColumn name change).Consistent := by
  have hlower : ∀ u : Table, (u.columns.map fun c => Text.lower c.name) =
      u.columnNames.map Text.lower := by
    intro u
    simp [columnNames]
  constructor
  · rw [hlower, changeColumn_columnNames hn, ← hlower]
    exact ht.nodup
  · intro c hmem
    rcases mem_changeColumn hmem with h | ⟨d, hd, rfl⟩
    · exact ht.column c h
    · exact hc d (ht.column d hd)

theorem applyPrimary_consistent (columns : List Text) (ht : t.Consistent) :
    (t.applyPrimary columns).Consistent :=
  foldl_changeColumn id (fun _ => Column.markPrimary) columns
    (fun _ _ => changeColumn_consistent (fun _ => rfl) fun _ => Column.markPrimary_consistent) ht

theorem applyForeign_consistent (k : ForeignKey) (ht : t.Consistent) :
    (t.applyForeign k).Consistent :=
  foldl_changeColumn Prod.fst (fun pair => Column.pointAt k.refTable pair.2) k.pairs
    (fun _ _ => changeColumn_consistent (fun _ => rfl) fun _ _ => Column.pointAt_consistent) ht

theorem applyUnique_consistent (columns : List Text) (ht : t.Consistent) :
    (t.applyUnique columns).Consistent := by
  unfold applyUnique
  split
  · exact changeColumn_consistent (fun _ => rfl) (fun _ => Column.markUnique_consistent) ht
  · exact ht

end Table

namespace Sql

theorem columnOf_consistent (definition name type : Text) :
    (columnOf definition name type).Consistent := by
  unfold columnOf
  dsimp only
  split
  · exact Column.pointAt_consistent
  · simp [Column.Consistent]

theorem declarePart_consistent (part : Text) (ht : t.Consistent) :
    (declarePart t part).Consistent := by
  unfold declarePart
  split
  · next c _ hc =>
    obtain ⟨_, _, hc⟩ := Option.bind_eq_some_iff.mp hc
    simp only [Option.some.injEq] at hc
    subst hc
    exact Table.declare_consistent ht (columnOf_consistent _ _ _)
  · exact ht

theorem applyPart_consistent (part : Text) (ht : t.Consistent) : (applyPart t part).Consistent := by
  unfold applyPart
  split
  · exact Table.applyPrimary_consistent _ ht
  · split
    · exact Table.applyForeign_consistent _ ht
    · exact ht
  · exact Table.applyUnique_consistent _ ht
  · exact ht
  · exact ht

theorem tableOf_consistent (name : Text) (parts : List Text) : (tableOf name parts).Consistent := by
  have declared : (parts.foldl declarePart { name }).Consistent :=
    List.foldlRecOn parts _ (Table.consistent_of_empty name)
      fun _ ht part _ => declarePart_consistent part ht
  exact List.foldlRecOn parts _ declared fun _ ht part _ => applyPart_consistent part ht

theorem createTable_consistent {statement : Text} (h : createTable statement = .ok (some t)) :
    t.Consistent := by
  unfold createTable at h
  split at h
  · cases h
  · split at h
    · cases h
    · cases h
      exact tableOf_consistent _ _

theorem created_of_declareStatement {outline : Outline} {next : Declarations}
    (h : declareStatement found outline = .ok next) (ht : t ∈ next.tables) :
    t ∈ found.tables ∨ ∃ statement, createTable statement = .ok (some t) := by
  unfold declareStatement at h
  split at h
  · cases hc : createTable outline.text with
    | error fault => simp [hc, Except.map] at h
    | ok created =>
      simp only [hc, Except.map, Except.ok.injEq] at h
      subst h
      rcases List.mem_append.mp ht with ht | ht
      · exact Or.inl ht
      · exact Or.inr ⟨_, Option.mem_toList.mp ht ▸ hc⟩
  · cases h
    exact Or.inl ht
  · cases h
    exact Or.inl ht

theorem created_of_foldlM {outlines : List Outline} {last : Declarations}
    (h : outlines.foldlM declareStatement found = .ok last) (ht : t ∈ last.tables) :
    t ∈ found.tables ∨ ∃ statement, createTable statement = .ok (some t) := by
  induction outlines generalizing found with
  | nil =>
    cases h
    exact Or.inl ht
  | cons outline outlines ih =>
    rw [List.foldlM_cons] at h
    cases hn : declareStatement found outline with
    | error fault => simp [hn, bind, Except.bind] at h
    | ok next =>
      rw [hn] at h
      rcases ih h with hnext | hcreated
      · exact created_of_declareStatement hn hnext
      · exact Or.inr hcreated

/-- Every table that the scanner finds is created by the text of some statement. -/
theorem created_of_declarations {script : Text} {splitter : Splitter}
    (h : declarations script splitter = .ok found) (ht : t ∈ found.tables) :
    ∃ statement, createTable statement = .ok (some t) := by
  cases ho : splitter.outlines script with
  | error fault => simp [declarations, ho, bind, Except.bind] at h
  | ok outlines =>
    simp only [declarations, ho] at h
    rcases created_of_foldlM h ht with hnone | hcreated
    · cases hnone
    · exact hcreated

theorem declarations_consistent {script : Text} {splitter : Splitter}
    (h : declarations script splitter = .ok found) : Schema.Consistent found.tables := by
  intro t ht
  obtain ⟨statement, hcreate⟩ := created_of_declarations h ht
  exact createTable_consistent hcreate

end Sql

namespace Postgres

theorem constrain_consistent (constraint : ColumnConstraint) (h : c.Consistent) :
    (constrain c constraint).Consistent := by
  cases constraint with
  | references target => exact Column.pointAt_consistent
  | primaryKey | unique | nullable | defaultValue | other => exact h

theorem declareColumn_consistent (types : List (Text × Text)) (e : Element) (ht : t.Consistent) :
    (declareColumn types t e).Consistent := by
  cases e with
  | constraint | named => exact ht
  | column name type constraints =>
    apply Table.declare_consistent ht
    exact List.foldlRecOn constraints constrain (by simp [Column.Consistent])
      fun _ hc constraint _ => constrain_consistent constraint hc

theorem applyConstraint_consistent (constraint : TableConstraint) (ht : t.Consistent) :
    (applyConstraint t constraint).Consistent := by
  cases constraint with
  | primaryKey columns => exact Table.applyPrimary_consistent columns ht
  | unique columns => exact Table.applyUnique_consistent columns ht
  | foreignKey columns target => exact Table.applyForeign_consistent _ ht
  | other => exact ht

theorem tableOf_consistent (index : Sql.TypeIndex) (name : Text) (elements : List Element) :
    (tableOf index name elements).Consistent := by
  apply List.foldlRecOn
  · exact List.foldlRecOn elements _ (Table.consistent_of_empty name)
      fun _ ht e _ => declareColumn_consistent _ e ht
  · exact fun _ ht constraint _ => applyConstraint_consistent constraint ht

theorem declarationsOf_consistent (index : Sql.TypeIndex) (statements : List Statement) :
    Schema.Consistent (declarationsOf index statements).tables := by
  unfold declarationsOf
  apply List.foldlRecOn statements (declareStatement index)
    (motive := fun found => Schema.Consistent found.tables)
  · simp [Schema.Consistent]
  · intro found hf statement _
    cases statement with
    | alterTable | other => exact hf
    | createTable name elements =>
      intro t ht
      rcases List.mem_append.mp ht with ht | ht
      · exact hf t ht
      · obtain rfl := List.mem_singleton.mp ht
        exact tableOf_consistent index name elements

theorem declarations_consistent {script : Text} {splitter : Sql.Splitter}
    {parse? : Text → Option (List Statement)} {breaksOff? : Text → Option Text}
    (h : declarations script splitter parse? breaksOff? = .ok found) :
    Schema.Consistent found.tables := by
  obtain ⟨ss, index, -, -, rfl⟩ := declarations_eq_ok h
  exact declarationsOf_consistent index ss

end Postgres

theorem Engine.read_consistent {engine : Engine} {script : Text} {readers : Readers}
    (h : engine.read script readers = .ok found) : Schema.Consistent found.tables := by
  cases engine with
  | postgres => exact Postgres.declarations_consistent h
  | scanner => exact Sql.declarations_consistent h
  | idle => cases h

namespace Schema

theorem changeTable_consistent {change : Table → Table}
    (h : ∀ t, t.Consistent → (change t).Consistent) (hs : s.Consistent) :
    (s.changeTable name change).Consistent := by
  intro t ht
  rcases mem_changeTable ht with ht | ⟨u, hu, rfl⟩
  · exact hs t ht
  · exact h u (hs u hu)

theorem applyPrimaryKeys_consistent (keys : List PrimaryKey) (hs : s.Consistent) :
    (s.applyPrimaryKeys keys).Consistent :=
  List.foldlRecOn keys _ hs fun _ hs k _ =>
    changeTable_consistent (fun _ => Table.applyPrimary_consistent k.columns) hs

theorem applyForeignKeys_consistent (keys : List ForeignKey) (hs : s.Consistent) :
    (s.applyForeignKeys keys).Consistent :=
  List.foldlRecOn keys _ hs fun _ hs k _ =>
    changeTable_consistent (fun _ => Table.applyForeign_consistent k) hs

theorem extend_consistent (recovered : List ForeignKey) (hs : s.Consistent)
    (hf : Consistent found.tables) : (s.extend found recovered).Consistent := by
  apply applyForeignKeys_consistent
  apply applyForeignKeys_consistent
  apply applyPrimaryKeys_consistent
  intro t ht
  rcases List.mem_append.mp ht with ht | ht
  · exact hs t ht
  · exact hf t ht

end Schema

/-- What can be done to a schema that is being built. -/
inductive Action where
  | addScript (script : Text)
  | applyPrimaryKeys (keys : List PrimaryKey)
  | applyForeignKeys (keys : List ForeignKey)

namespace Schema

variable {engines : List Engine} {readers : Readers}

/-- The tables after an action, whether it ends with a fault or not. -/
def afterAction (engines : List Engine) (readers : Readers) (s : Schema) : Action → Schema
  | .addScript script => ((Building.addScript engines script readers).run s).2
  | .applyPrimaryKeys keys => s.applyPrimaryKeys keys
  | .applyForeignKeys keys => s.applyForeignKeys keys

/-- The tables after some actions; a fault does not keep the next action from being done. -/
def afterActions (engines : List Engine) (readers : Readers) (s : Schema)
    (actions : List Action) : Schema :=
  actions.foldl (afterAction engines readers) s

theorem afterAction_consistent (action : Action) (hs : s.Consistent) :
    (s.afterAction engines readers action).Consistent := by
  cases action with
  | applyPrimaryKeys keys => exact applyPrimaryKeys_consistent keys hs
  | applyForeignKeys keys => exact applyForeignKeys_consistent keys hs
  | addScript script =>
    change Consistent ((Building.addScript engines script readers).run s).2
    generalize h : (Building.addScript engines script readers).run s = outcome
    obtain ⟨answer, after⟩ := outcome
    rcases Building.addScript_cases h with
      ⟨_, _, rfl⟩ | ⟨_, _, rfl⟩ | ⟨_, found, recovered, _, hr, _, _, rfl⟩
    · exact hs
    · exact hs
    · exact extend_consistent recovered hs (Engine.read_consistent hr)

/-- Every schema that actions build from nothing is consistent, whichever engines and readers
they rely on. -/
theorem afterActions_consistent (engines : List Engine) (readers : Readers)
    (actions : List Action) : (afterActions engines readers [] actions).Consistent :=
  List.foldlRecOn actions _ (by simp [Consistent]) fun _ hs action _ =>
    afterAction_consistent action hs

end Schema
end SchemaDiagram
