import Mathlib.Data.List.Perm.Basic
import SchemaDiagram.Proofs.Schema.Repetition

/-!
The order of keys. What a name means depends on names alone, which no key changes; so changes of
columns that commute may be folded in one after the other in any order. Marks of primary keys
commute with one another and with references, and a second mark changes nothing.
-/
namespace SchemaDiagram

/-- Two folds go past each other where each step of the one goes past each step of the other. -/
theorem foldl_foldl_comm {σ α β : Type} {f : σ → α → σ} {g : σ → β → σ}
    (h : ∀ s a b, g (f s a) b = f (g s b) a) (as : List α) (bs : List β) (s : σ) :
    bs.foldl g (as.foldl f s) = as.foldl f (bs.foldl g s) := by
  induction bs generalizing s with
  | nil => rfl
  | cons b bs ih =>
    have hstep : g (as.foldl f s) b = as.foldl f (g s b) := by
      apply (List.foldl_hom (g · b) _).symm
      intro s a
      exact (h s a b).symm
    rw [List.foldl_cons, List.foldl_cons, hstep]
    exact ih (g s b)

/-- Steps that commute, none of which does more the second time, do no more as a whole either. -/
theorem foldl_twice {σ α : Type} {f : σ → α → σ} (hcomm : ∀ s a b, f (f s a) b = f (f s b) a)
    (htwice : ∀ s a, f (f s a) a = f s a) (as : List α) (s : σ) :
    as.foldl f (as.foldl f s) = as.foldl f s := by
  induction as generalizing s with
  | nil => rfl
  | cons a as ih =>
    have hback : f (as.foldl f (f s a)) a = as.foldl f (f s a) := by
      have hpast := foldl_foldl_comm hcomm as [a] (f s a)
      rw [List.foldl_cons, List.foldl_nil] at hpast
      rw [hpast, List.foldl_cons, List.foldl_nil, htwice]
    rw [List.foldl_cons, List.foldl_cons, hback]
    exact ih (f s a)

/-- A column that a primary key names, with its table. -/
structure KeyCell where
  table : Text
  column : Text

def PrimaryKey.keyCells (k : PrimaryKey) : List KeyCell :=
  k.columns.map fun column => ⟨k.table, column⟩

namespace Schema

variable {s : Schema} {table table' column column' : Text} {change change' : Column → Column}

theorem cell?_changeCell (i j : Nat) [Decidable (s.MeansCell table column i j)] :
    (s.changeCell table column change).cell? i j =
      if s.MeansCell table column i j then (s.cell? i j).map change else s.cell? i j := by
  split
  · next h => exact changeCell_of_means h
  · next h => exact changeCell_of_not_means h

/-- Changes that keep the names of columns and commute on each column commute on a schema. -/
theorem changeCell_comm (h : ∀ c, (change c).name = c.name) (h' : ∀ c, (change' c).name = c.name)
    (hcomm : ∀ c, change' (change c) = change (change' c)) :
    (s.changeCell table column change).changeCell table' column' change' =
      (s.changeCell table' column' change').changeCell table column change := by
  classical
  have hshape : (s.changeCell table column change).shape = s.shape := changeCell_shape h
  have hshape' : (s.changeCell table' column' change').shape = s.shape := changeCell_shape h'
  apply eq_of_cells
  · rw [changeCell_shape h', hshape, changeCell_shape h, hshape']
  · intro i j
    have hmeans : (s.changeCell table column change).MeansCell table' column' i j ↔
        s.MeansCell table' column' i j := meansCell_iff_of_shape hshape
    have hmeans' : (s.changeCell table' column' change').MeansCell table column i j ↔
        s.MeansCell table column i j := meansCell_iff_of_shape hshape'
    simp only [cell?_changeCell, hmeans, hmeans']
    by_cases hm : s.MeansCell table column i j <;> by_cases hm' : s.MeansCell table' column' i j
    · cases hc : s.cell? i j with
      | none => simp [hm, hm']
      | some c => simp [hm, hm', hcomm c]
    · simp [hm, hm']
    · simp [hm, hm']
    · simp [hm, hm']

/-- A change that does nothing more to a column it has changed does nothing more to a schema. -/
theorem changeCell_twice (h : ∀ c, (change c).name = c.name)
    (htwice : ∀ c, change (change c) = change c) :
    (s.changeCell table column change).changeCell table column change =
      s.changeCell table column change := by
  classical
  have hshape : (s.changeCell table column change).shape = s.shape := changeCell_shape h
  apply eq_of_cells
  · exact changeCell_shape h
  · intro i j
    have hmeans : (s.changeCell table column change).MeansCell table column i j ↔
        s.MeansCell table column i j := meansCell_iff_of_shape hshape
    simp only [cell?_changeCell, hmeans]
    by_cases hm : s.MeansCell table column i j
    · cases hc : s.cell? i j with
      | none => simp [hm]
      | some c => simp [hm, htwice c]
    · simp [hm]

/-- Marks the column that a primary key names. -/
def mark (s : Schema) (k : KeyCell) : Schema := s.changeCell k.table k.column Column.markPrimary

theorem mark_comm (s : Schema) (k l : KeyCell) : (s.mark k).mark l = (s.mark l).mark k :=
  changeCell_comm (fun _ => rfl) (fun _ => rfl) fun _ => rfl

theorem mark_twice (s : Schema) (k : KeyCell) : (s.mark k).mark k = s.mark k :=
  changeCell_twice (fun _ => rfl) fun _ => rfl

theorem point_mark (s : Schema) (k : KeyCell) (p : KeyPair) :
    (s.mark k).point p = (s.point p).mark k :=
  changeCell_comm (fun _ => rfl) (fun _ => rfl) fun _ => rfl

/-- Primary keys are folded in column by column. -/
theorem applyPrimaryKeys_eq (s : Schema) (keys : List PrimaryKey) :
    s.applyPrimaryKeys keys = (keys.flatMap PrimaryKey.keyCells).foldl mark s := by
  have hkey : ∀ (s : Schema) (k : PrimaryKey),
      s.changeTable k.table (fun t => t.applyPrimary k.columns) = k.keyCells.foldl mark s := by
    intro s k
    rw [PrimaryKey.keyCells, List.foldl_map]
    exact changeTable_foldl (fun column t => t.changeColumn column Column.markPrimary) k.columns
      fun _ _ => Table.changeColumn_name
  rw [applyPrimaryKeys, List.foldl_flatMap]
  simp only [hkey]

theorem applyForeignKeys_applyPrimaryKeys (s : Schema) (primary : List PrimaryKey)
    (foreign : List ForeignKey) :
    (s.applyPrimaryKeys primary).applyForeignKeys foreign =
      (s.applyForeignKeys foreign).applyPrimaryKeys primary := by
  simp only [applyPrimaryKeys_eq, applyForeignKeys_eq]
  exact foldl_foldl_comm point_mark _ _ s

theorem applyPrimaryKeys_perm {keys keys' : List PrimaryKey} (h : keys.Perm keys') (s : Schema) :
    s.applyPrimaryKeys keys = s.applyPrimaryKeys keys' := by
  simp only [applyPrimaryKeys_eq]
  apply (h.flatMap_right PrimaryKey.keyCells).foldl_eq'
  intro k _ l _ s
  exact mark_comm s k l

theorem applyPrimaryKeys_twice (s : Schema) (keys : List PrimaryKey) :
    (s.applyPrimaryKeys keys).applyPrimaryKeys keys = s.applyPrimaryKeys keys := by
  simp only [applyPrimaryKeys_eq]
  exact foldl_twice mark_comm mark_twice _ s

/-- Primary and foreign keys may be folded in in either order, primary keys in any order among
themselves; and keys of either kind change nothing when they are folded in a second time. -/
theorem applyKeys_order (s : Schema) (primary : List PrimaryKey) (foreign : List ForeignKey) :
    (s.applyPrimaryKeys primary).applyForeignKeys foreign =
        (s.applyForeignKeys foreign).applyPrimaryKeys primary ∧
      (∀ primary' : List PrimaryKey, primary'.Perm primary →
        s.applyPrimaryKeys primary' = s.applyPrimaryKeys primary) ∧
      (s.applyPrimaryKeys primary).applyPrimaryKeys primary = s.applyPrimaryKeys primary ∧
      (s.applyForeignKeys foreign).applyForeignKeys foreign = s.applyForeignKeys foreign :=
  ⟨applyForeignKeys_applyPrimaryKeys s primary foreign, fun _ h => applyPrimaryKeys_perm h s,
    applyPrimaryKeys_twice s primary, applyForeignKeys_twice s foreign⟩

/-- Two primary keys over one column in different letter case, in either order, and two foreign keys
from another column of which the second one wins. -/
theorem applyKeys_order_overlap :
    let s : Schema := [⟨"song".toList, [{ name := "no".toList, type := "INT".toList },
      { name := "album".toList, type := "INT".toList }]⟩]
    let first : PrimaryKey := ⟨"song".toList, ["no".toList, "album".toList]⟩
    let second : PrimaryKey := ⟨"SONG".toList, ["NO".toList]⟩
    let foreign : List ForeignKey := [
      { table := "Song".toList, columns := ["Album".toList], refTable := "disc".toList
        refColumns := [] },
      { table := "song".toList, columns := ["album".toList], refTable := "album".toList
        refColumns := ["no".toList] }]
    [second, first].Perm [first, second] ∧
      s.applyPrimaryKeys [second, first] = s.applyPrimaryKeys [first, second] ∧
      (s.applyForeignKeys foreign).applyPrimaryKeys [first, second] =
        [⟨"song".toList, [
          { name := "no".toList, type := "INT".toList, isPrimary := true, nullable := false },
          { name := "album".toList, type := "INT".toList, isPrimary := true, nullable := false
            reference := some ⟨"album".toList, "no".toList⟩ }]⟩] := by
  intro s first second foreign
  obtain ⟨hboth, hperm, -, -⟩ := applyKeys_order s [first, second] foreign
  refine ⟨.swap first second [], hperm _ (.swap first second []), ?_⟩
  rw [← hboth]
  decide

end Schema
end SchemaDiagram
