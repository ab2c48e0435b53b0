import Mathlib
import SchemaDiagram.Proofs.Schema.Building
import SchemaDiagram.Proofs.Schema.Frame

/-!
Schemas only grow. A script adds its tables at the end; of the tables before them it changes nothing
but the marks that keys leave on columns, and those in one direction only.
-/
namespace SchemaDiagram

variable {s s' s'' added : Schema} {t u v : Table} {c d e : Column} {m n : Nat}

/-- What is declared of a column stays as it is, and no key is taken back. -/
structure Column.Grows (c d : Column) : Prop where
  name : d.name = c.name
  type : d.type = c.type
  isUnique : d.isUnique = c.isUnique
  defaultValue : d.defaultValue = c.defaultValue
  isPrimary : c.isPrimary = true → d.isPrimary = true
  isForeign : c.isForeign = true → d.isForeign = true
  nullable : d.nullable = true → c.nullable = true
  reference : c.reference.isSome = true → d.reference.isSome = true

/-- A table keeps its name, and its columns grow at their places. -/
structure Table.Grows (t u : Table) : Prop where
  name : u.name = t.name
  columns : List.Forall₂ Column.Grows t.columns u.columns

/-- The tables of a schema grow at their places, and some tables come after them. -/
def Schema.GrowsBy (s s' : Schema) (n : Nat) : Prop :=
  ∃ kept added, s' = kept ++ added ∧ List.Forall₂ Table.Grows s kept ∧ added.length = n

namespace Column

theorem Grows.refl (c : Column) : c.Grows c := ⟨rfl, rfl, rfl, rfl, id, id, id, id⟩

theorem Grows.trans (h : c.Grows d) (h' : d.Grows e) : c.Grows e where
  name := h'.name.trans h.name
  type := h'.type.trans h.type
  isUnique := h'.isUnique.trans h.isUnique
  defaultValue := h'.defaultValue.trans h.defaultValue
  isPrimary := h'.isPrimary ∘ h.isPrimary
  isForeign := h'.isForeign ∘ h.isForeign
  nullable := h.nullable ∘ h'.nullable
  reference := h'.reference ∘ h.reference

theorem grows_markPrimary (c : Column) : c.Grows c.markPrimary :=
  ⟨rfl, rfl, rfl, rfl, fun _ => rfl, id, fun h => Bool.noConfusion h, id⟩

theorem grows_pointAt (table column : Text) (c : Column) : c.Grows (c.pointAt table column) :=
  ⟨rfl, rfl, rfl, rfl, id, fun _ => rfl, id, fun _ => rfl⟩

end Column

/-- A change at one place relates a list to the changed list where every element is related to
itself. -/
theorem forall₂_modify {α : Type} {R : α → α → Prop} {change : α → α} (hrefl : ∀ a, R a a)
    (h : ∀ a, R a (change a)) (as : List α) (i : Nat) : List.Forall₂ R as (as.modify i change) := by
  induction as generalizing i with
  | nil => simp
  | cons a as ih =>
    cases i with
    | zero => exact List.Forall₂.cons (h a) (List.forall₂_same.mpr fun b _ => hrefl b)
    | succ i => exact List.Forall₂.cons (hrefl a) (ih i)

theorem forall₂_trans {α : Type} {R : α → α → Prop} {as bs cs : List α}
    (hab : List.Forall₂ R as bs) (hbc : List.Forall₂ R bs cs)
    (h : ∀ a b c, R a b → R b c → R a c) : List.Forall₂ R as cs := by
  induction hab generalizing cs with
  | nil => exact hbc
  | cons hr _ ih =>
    cases hbc with
    | cons hr' hrest => exact List.Forall₂.cons (h _ _ _ hr hr') (ih hrest)

namespace Table

theorem Grows.refl (t : Table) : t.Grows t :=
  ⟨rfl, List.forall₂_same.mpr fun c _ => Column.Grows.refl c⟩

theorem Grows.trans (h : t.Grows u) (h' : u.Grows v) : t.Grows v :=
  ⟨h'.name.trans h.name, forall₂_trans h.columns h'.columns fun _ _ _ => Column.Grows.trans⟩

theorem grows_changeColumn {change : Column → Column} (h : ∀ c : Column, c.Grows (change c))
    (name : Text) (t : Table) : t.Grows (t.changeColumn name change) := by
  refine ⟨changeColumn_name, ?_⟩
  unfold changeColumn
  split
  · exact forall₂_modify Column.Grows.refl h _ _
  · exact (Grows.refl t).columns

theorem grows_applyPrimary (columns : List Text) (t : Table) : t.Grows (t.applyPrimary columns) :=
  foldl_changeColumn id (fun _ => Column.markPrimary) columns
    (fun u _ h => h.trans (grows_changeColumn Column.grows_markPrimary _ u)) (Grows.refl t)

theorem grows_applyForeign (k : ForeignKey) (t : Table) : t.Grows (t.applyForeign k) :=
  foldl_changeColumn Prod.fst (fun pair => Column.pointAt k.refTable pair.2) k.pairs
    (fun u _ h => h.trans (grows_changeColumn (Column.grows_pointAt _ _) _ u)) (Grows.refl t)

end Table

namespace Schema

theorem grows_refl (s : Schema) : List.Forall₂ Table.Grows s s :=
  List.forall₂_same.mpr fun t _ => Table.Grows.refl t

theorem grows_trans (h : List.Forall₂ Table.Grows s s') (h' : List.Forall₂ Table.Grows s' s'') :
    List.Forall₂ Table.Grows s s'' :=
  forall₂_trans h h' fun _ _ _ => Table.Grows.trans

theorem grows_changeTable {change : Table → Table} (h : ∀ t : Table, t.Grows (change t))
    (name : Text) (s : Schema) : List.Forall₂ Table.Grows s (s.changeTable name change) := by
  unfold changeTable
  split
  · exact forall₂_modify Table.Grows.refl h s _
  · exact grows_refl s

theorem grows_applyPrimaryKeys (keys : List PrimaryKey) (s : Schema) :
    List.Forall₂ Table.Grows s (s.applyPrimaryKeys keys) :=
  List.foldlRecOn keys _ (grows_refl s) fun s' h k _ =>
    grows_trans h
      (grows_changeTable (Table.grows_applyPrimary k.columns) k.table s')

theorem grows_applyForeignKeys (keys : List ForeignKey) (s : Schema) :
    List.Forall₂ Table.Grows s (s.applyForeignKeys keys) :=
  List.foldlRecOn keys _ (grows_refl s) fun s' h k _ =>
    grows_trans h (grows_changeTable (Table.grows_applyForeign k) k.table s')

/-- Tables that grow at their places are those before and those added. -/
theorem growsBy_of_append (h : List.Forall₂ Table.Grows (s ++ added) s') :
    s.GrowsBy s' added.length := by
  have hkept := List.forall₂_take s.length h
  have hadded := List.forall₂_drop s.length h
  rw [List.take_left] at hkept
  rw [List.drop_left] at hadded
  exact ⟨_, _, (List.take_append_drop s.length s').symm, hkept, hadded.length_eq.symm⟩

theorem GrowsBy.refl (s : Schema) : s.GrowsBy s 0 := ⟨s, [], by simp, grows_refl s, rfl⟩

theorem GrowsBy.trans (h : s.GrowsBy s' m) (h' : s'.GrowsBy s'' n) : s.GrowsBy s'' (m + n) := by
  obtain ⟨kept, added, rfl, hkept, rfl⟩ := h
  obtain ⟨kept', added', rfl, hkept', rfl⟩ := h'
  have hgrows : List.Forall₂ Table.Grows (s ++ (added ++ added')) (kept' ++ added') := by
    rw [← List.append_assoc]
    have hfirst := List.rel_append hkept (grows_refl added)
    exact List.rel_append (grows_trans hfirst hkept') (grows_refl added')
  simpa using growsBy_of_append hgrows

theorem grows_extend (s : Schema) (found : Declarations) (recovered : List ForeignKey) :
    List.Forall₂ Table.Grows (s ++ found.tables) (s.extend found recovered) := by
  have hprimary := grows_applyPrimaryKeys found.primaryKeys (s ++ found.tables)
  have hforeign := grows_trans hprimary
    (grows_applyForeignKeys found.foreignKeys _)
  exact grows_trans hforeign (grows_applyForeignKeys recovered _)

theorem growsBy_extend (s : Schema) (found : Declarations) (recovered : List ForeignKey) :
    s.GrowsBy (s.extend found recovered) found.tables.length :=
  growsBy_of_append (grows_extend s found recovered)

end Schema

namespace Building

variable {engines : List Engine} {scripts : List Text} {script : Text} {readers : Readers}
  {after : Schema} {count : Nat} {counts : List Nat}

/-- Adds some scripts in order, and tells how many tables each of them adds. -/
def addScripts (engines : List Engine) (scripts : List Text) (readers : Readers := {}) :
    Building (List Nat) :=
  scripts.mapM fun script => addScript engines script readers

theorem addScript_growsBy (h : (addScript engines script readers).run s = (.ok count, after)) :
    s.GrowsBy after count := by
  rcases addScript_cases h with ⟨_, ha, _⟩ | ⟨_, ha, rfl⟩ | ⟨_, found, recovered, _, _, _, ha, rfl⟩
  · cases ha
  · cases ha
    exact Schema.GrowsBy.refl _
  · cases ha
    exact Schema.growsBy_extend s found recovered

/-- What goes well as a whole goes well step by step. -/
theorem run_bind_eq_ok {α β : Type} {first : Building α} {next : α → Building β} {b : β}
    (h : (first >>= next).run s = (.ok b, after)) :
    ∃ a s', first.run s = (.ok a, s') ∧ (next a).run s' = (.ok b, after) := by
  obtain ⟨answer, s', hfirst⟩ : ∃ answer s', first.run s = (answer, s') := ⟨_, _, rfl⟩
  have hrun : (first >>= next).run s = ExceptT.bindCont next answer s' := by
    change (first.run >>= ExceptT.bindCont next) s = _
    exact congrArg (fun p : Except Fault α × Schema => ExceptT.bindCont next p.1 p.2) hfirst
  rw [hrun] at h
  cases answer with
  | error fault => cases h
  | ok a => exact ⟨a, s', hfirst, h⟩

/-- Whatever scripts are added, the tables before them stay at the front with all that is declared
of them, and the counts tell how many tables come after them. -/
theorem addScripts_growsBy
    (h : (addScripts engines scripts readers).run s = (.ok counts, after)) :
    s.GrowsBy after counts.sum := by
  induction scripts generalizing s counts with
  | nil =>
    cases h
    exact Schema.GrowsBy.refl _
  | cons script scripts ih =>
    rw [addScripts, List.mapM_cons] at h
    obtain ⟨count, s', hfirst, h⟩ := run_bind_eq_ok h
    obtain ⟨rest, s'', hrest, h⟩ := run_bind_eq_ok h
    cases h
    rw [List.sum_cons]
    exact (addScript_growsBy hfirst).trans (ih hrest)

/-- A script that is passed over adds nothing; one that reaches back to a table that was there
before makes a key of its column and adds a table of its own. -/
theorem addScripts_growsBy_alter :
    let s : Schema := [⟨"a".toList, [{ name := "b".toList, type := "INT".toList }]⟩]
    let scripts : List Text := ["CREATE TABLE".toList,
      "CREATE TABLE c (d INT UNSIGNED); ALTER TABLE A ADD FOREIGN KEY (B) REFERENCES c (d)".toList]
    ∃ after, (addScripts Engine.all scripts).run s = (.ok [0, 1], after) ∧ s.GrowsBy after 1 := by
  intro s scripts
  have hcounts : ((addScripts Engine.all scripts).run s).1 = .ok [0, 1] :=
    eq_ok_of_toOption (by decide +kernel)
  generalize hrun : (addScripts Engine.all scripts).run s = outcome at hcounts
  obtain ⟨answer, after⟩ := outcome
  cases hcounts
  exact ⟨after, rfl, addScripts_growsBy hrun⟩

end Building
end SchemaDiagram
