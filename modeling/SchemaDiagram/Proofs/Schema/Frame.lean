import SchemaDiagram.Schema.Basic

/-!
What keys leave as it is. Changes of columns and of tables keep every name and every place, so a
name means the same column of the same table before and after them.
-/
namespace SchemaDiagram

variable {s s' : Schema} {t : Table} {name table column : Text} {i j : Nat}

/-- The earliest place of a list at which a property holds. -/
def First {α : Type} (P : α → Prop) (as : List α) (i : Nat) : Prop :=
  (∃ a, as[i]? = some a ∧ P a) ∧ ∀ k < i, ∀ a, as[k]? = some a → ¬ P a

theorem findIdx?_eq_some_iff_first {α : Type} {p : α → Bool} {as : List α} :
    as.findIdx? p = some i ↔ First (fun a => p a = true) as i := by
  rw [List.findIdx?_eq_some_iff_getElem]
  constructor
  · rintro ⟨hi, hp, hno⟩
    refine ⟨⟨as[i], List.getElem?_eq_getElem hi, hp⟩, ?_⟩
    intro k hk a ha
    obtain ⟨_, rfl⟩ := List.getElem?_eq_some_iff.mp ha
    exact hno k hk
  · rintro ⟨⟨a, ha, hp⟩, hno⟩
    obtain ⟨hi, rfl⟩ := List.getElem?_eq_some_iff.mp ha
    exact ⟨hi, hp, fun k hk => hno k hk _ (List.getElem?_eq_getElem (Nat.lt_trans hk hi))⟩

namespace Table
variable {change : Column → Column}

theorem eq_of_columns {u : Table} (hn : t.name = u.name) (hc : t.columns = u.columns) : t = u := by
  obtain ⟨name, columns⟩ := t
  obtain rfl : name = u.name := hn
  obtain rfl : columns = u.columns := hc
  rfl

/-- A name means the first column that agrees with it in lower case. -/
def Means (t : Table) (name : Text) (j : Nat) : Prop :=
  First (fun c => Text.lower c.name = Text.lower name) t.columns j

/-- The place of the first column of a name, in any letter case. -/
def position? (t : Table) (name : Text) : Option Nat :=
  t.columns.findIdx? fun c => sameName c.name name

def columnNames (t : Table) : List Text := t.columns.map (·.name)

theorem position?_eq (t : Table) (name : Text) :
    t.position? name = t.columnNames.findIdx? (sameName · name) := by
  simp only [position?, columnNames, List.findIdx?_map]
  rfl

theorem position?_eq_some_iff : t.position? name = some j ↔ t.Means name j := by
  simp [position?, findIdx?_eq_some_iff_first, Means, sameName]

theorem isSome_column? (t : Table) (name : Text) :
    (t.column? name).isSome = (t.position? name).isSome := by
  rw [column?, position?, Bool.eq_iff_iff]
  simp

@[simp] theorem changeColumn_name : (t.changeColumn name change).name = t.name := by
  unfold changeColumn
  split <;> rfl

/-- Only the column that the name means is changed. -/
theorem changeColumn_getElem? : (t.changeColumn name change).columns[j]? =
    if t.position? name = some j then t.columns[j]?.map change else t.columns[j]? := by
  unfold changeColumn position?
  split
  · next i hi =>
    rw [hi, List.getElem?_modify]
    by_cases hij : i = j <;> simp [hij]
  · next hi => simp [hi]

@[simp] theorem changeColumn_columnNames (h : ∀ c, (change c).name = c.name) :
    (t.changeColumn name change).columnNames = t.columnNames := by
  apply List.ext_getElem?
  intro j
  simp only [columnNames, List.getElem?_map, changeColumn_getElem?]
  split
  · cases t.columns[j]? <;> simp [h]
  · rfl

theorem mem_changeColumn {c : Column} (h : c ∈ (t.changeColumn name change).columns) :
    c ∈ t.columns ∨ ∃ d ∈ t.columns, c = change d := by
  obtain ⟨j, hj⟩ := List.mem_iff_getElem?.mp h
  rw [changeColumn_getElem?] at hj
  split at hj
  · obtain ⟨d, hd, rfl⟩ := Option.map_eq_some_iff.mp hj
    exact Or.inr ⟨d, List.mem_of_getElem? hd, rfl⟩
  · exact Or.inl (List.mem_of_getElem? hj)

/-- What every change of a column keeps, a fold of such changes keeps. -/
theorem foldl_changeColumn {α : Type} {P : Table → Prop} (name : α → Text)
    (change : α → Column → Column) (as : List α)
    (h : ∀ t a, P t → P (t.changeColumn (name a) (change a))) (ht : P t) :
    P (as.foldl (fun t a => t.changeColumn (name a) (change a)) t) :=
  List.foldlRecOn as _ ht fun t ht a _ => h t a ht

end Table

namespace Schema
variable {change : Table → Table}

/-- A name means the earliest table of exactly this name, and where there is none the earliest
that agrees with it in lower case. -/
def Means (s : Schema) (name : Text) (i : Nat) : Prop :=
  First (fun t => t.name = name) s i ∨
    (∀ t ∈ s, t.name ≠ name) ∧ First (fun t => Text.lower t.name = Text.lower name) s i

theorem position?_eq_some_iff : s.position? name = some i ↔ s.Means name i := by
  simp only [position?, Option.or_eq_some_iff, findIdx?_eq_some_iff_first,
    List.findIdx?_eq_none_iff, Means, sameName, beq_iff_eq, beq_eq_false_iff_ne]

def tableNames (s : Schema) : List Text := s.map (·.name)

theorem position?_eq (s : Schema) (name : Text) : s.position? name =
    (s.tableNames.findIdx? (· == name)).or (s.tableNames.findIdx? (sameName · name)) := by
  simp only [position?, tableNames, List.findIdx?_map]
  rfl

/-- Only the table that the name means is changed. -/
theorem changeTable_getElem? : (s.changeTable name change)[i]? =
    if s.position? name = some i then s[i]?.map change else s[i]? := by
  unfold changeTable
  split
  · next k hk =>
    rw [hk, List.getElem?_modify]
    by_cases hki : k = i <;> simp [hki]
  · next hk => simp [hk]

@[simp] theorem changeTable_tableNames (h : ∀ t, (change t).name = t.name) :
    (s.changeTable name change).tableNames = s.tableNames := by
  apply List.ext_getElem?
  intro i
  simp only [tableNames, List.getElem?_map, changeTable_getElem?]
  split
  · cases s[i]? <;> simp [h]
  · rfl

theorem position?_changeTable (h : ∀ t, (change t).name = t.name) (other : Text) :
    (s.changeTable name change).position? other = s.position? other := by
  rw [position?_eq, position?_eq, changeTable_tableNames h]

theorem mem_changeTable (h : t ∈ s.changeTable name change) :
    t ∈ s ∨ ∃ u ∈ s, t = change u := by
  obtain ⟨i, hi⟩ := List.mem_iff_getElem?.mp h
  rw [changeTable_getElem?] at hi
  split at hi
  · obtain ⟨u, hu, rfl⟩ := Option.map_eq_some_iff.mp hi
    exact Or.inr ⟨u, List.mem_of_getElem? hu, rfl⟩
  · exact Or.inl (List.mem_of_getElem? hi)

/-- Changes of one table after another are the same as one change that does them all, since the
name goes on meaning that table. -/
theorem changeTable_foldl {α : Type} (change : α → Table → Table) (as : List α)
    (h : ∀ a t, (change a t).name = t.name) :
    s.changeTable name (fun t => as.foldl (fun t a => change a t) t) =
      as.foldl (fun s a => s.changeTable name (change a)) s := by
  induction as generalizing s with
  | nil =>
    apply List.ext_getElem?
    intro i
    simp [changeTable_getElem?]
  | cons a as ih =>
    rw [List.foldl_cons, ← ih]
    apply List.ext_getElem?
    intro i
    simp only [changeTable_getElem?, position?_changeTable (h a), List.foldl_cons]
    split <;> simp [Function.comp_def]

section
variable {change : Column → Column}

/-- The names of all tables with the names of their columns. -/
def shape (s : Schema) : List (Text × List Text) := s.map fun t => (t.name, t.columnNames)

/-- The `j`th column of the `i`th table. -/
def cell? (s : Schema) (i j : Nat) : Option Column := s[i]?.bind (·.columns[j]?)

/-- The names of a table and a column mean the `j`th column of the `i`th table. -/
def MeansCell (s : Schema) (table column : Text) (i j : Nat) : Prop :=
  s.Means table i ∧ ∃ t, s[i]? = some t ∧ t.Means column j

theorem cell?_name : (s.cell? i j).map (·.name) = s.shape[i]?.bind (·.2[j]?) := by
  cases hs : s[i]? <;> simp [cell?, shape, Table.columnNames, hs]

/-- Schemas of one shape have columns at the same places. -/
theorem cell?_of_shape {c : Column} (h : s'.shape = s.shape) (hc : s.cell? i j = some c) :
    ∃ d, s'.cell? i j = some d := by
  have hname := cell?_name (s := s') (i := i) (j := j)
  rw [h, ← cell?_name, hc] at hname
  obtain ⟨d, hd, _⟩ := Option.map_eq_some_iff.mp hname
  exact ⟨d, hd⟩

def changeCell (s : Schema) (table column : Text) (change : Column → Column) : Schema :=
  s.changeTable table fun t => t.changeColumn column change

theorem changeCell_shape (h : ∀ c, (change c).name = c.name) :
    (s.changeCell table column change).shape = s.shape := by
  apply List.ext_getElem?
  intro i
  simp only [shape, changeCell, List.getElem?_map, changeTable_getElem?]
  split
  · cases s[i]? <;> simp [Table.changeColumn_columnNames h]
  · rfl

/-- What names mean depends on the shape of a schema alone. -/
theorem meansCell_iff_of_shape (h : s.shape = s'.shape) :
    s.MeansCell table column i j ↔ s'.MeansCell table column i j := by
  have hnames : s.tableNames = s'.tableNames := by
    simpa [shape, tableNames, Function.comp_def] using congrArg (List.map Prod.fst) h
  have hcolumns : s[i]?.map Table.columnNames = s'[i]?.map Table.columnNames := by
    have := congrArg (fun l : List (Text × List Text) => l[i]?.map Prod.snd) h
    simpa [shape, Function.comp_def] using this
  have htable : s.Means table i ↔ s'.Means table i := by
    rw [← position?_eq_some_iff, ← position?_eq_some_iff, position?_eq, position?_eq, hnames]
  unfold MeansCell
  rw [htable]
  cases hs : s[i]? <;> cases hs' : s'[i]? <;> simp_all
  simp [← Table.position?_eq_some_iff, Table.position?_eq, hcolumns]

theorem changeCell_of_means (h : s.MeansCell table column i j) :
    (s.changeCell table column change).cell? i j = (s.cell? i j).map change := by
  obtain ⟨hi, t, ht, hj⟩ := h
  simp [cell?, changeCell, changeTable_getElem?, position?_eq_some_iff.mpr hi, ht,
    Table.changeColumn_getElem?, Table.position?_eq_some_iff.mpr hj]

theorem changeCell_of_not_means (h : ¬ s.MeansCell table column i j) :
    (s.changeCell table column change).cell? i j = s.cell? i j := by
  simp only [cell?, changeCell, changeTable_getElem?]
  split
  · next hi =>
    cases ht : s[i]? with
    | none => rfl
    | some t =>
      have hj : t.position? column ≠ some j := by
        intro hj
        exact h ⟨position?_eq_some_iff.mp hi, t, ht, Table.position?_eq_some_iff.mp hj⟩
      simp [Table.changeColumn_getElem?, hj]
  · rfl

end
end Schema
end SchemaDiagram
