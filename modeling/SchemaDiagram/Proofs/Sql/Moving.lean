import SchemaDiagram.Proofs.Sql.Lines

/-!
Constraints over one column, in its definition or on a line of their own. A constraint moves from
the one place to the other without a trace, but for a primary key, which forbids null on a line
only.
-/
namespace SchemaDiagram

open Sql

variable {t u : Table} {c : Column} {f g : Column → Column} {m n : Text}

/-- A change that leaves the name of a column alone. -/
def KeepsName (f : Column → Column) : Prop := ∀ c, (f c).name = c.name

theorem modify_append_of_lt {α : Type} {f : α → α} {as : List α} {i : Nat} (h : i < as.length)
    (bs : List α) : (as ++ bs).modify i f = as.modify i f ++ bs := by
  induction as generalizing i with
  | nil => cases h
  | cons a as ih =>
    cases i with
    | zero => rfl
    | succ i => exact congrArg (a :: ·) (ih (Nat.lt_of_succ_lt_succ h))

theorem modify_append_length {α : Type} (f : α → α) (as : List α) (b : α) :
    (as ++ [b]).modify as.length f = as ++ [f b] := by
  induction as with
  | nil => rfl
  | cons a as ih => exact congrArg (a :: ·) ih

namespace Table

theorem position?_changeColumn (hf : KeepsName f) (t : Table) (m n : Text) :
    (t.changeColumn m f).position? n = t.position? n := by
  rw [position?_eq, position?_eq, changeColumn_columnNames hf]

/-- Two names that mean one column are the same. -/
theorem sameName_of_position? {j : Nat} (hm : t.position? m = some j)
    (hn : t.position? n = some j) : sameName m n = true := by
  obtain ⟨⟨c, hc, hcm⟩, -⟩ := position?_eq_some_iff.mp hm
  obtain ⟨⟨d, hd, hdn⟩, -⟩ := position?_eq_some_iff.mp hn
  obtain rfl := Option.some.inj (hc.symm.trans hd)
  simp [sameName, ← hcm, ← hdn]

/-- Changes of two columns go in any order, and so do changes of one where they commute. -/
theorem changeColumn_comm (f : Column → Column) (hf : KeepsName f) (hg : KeepsName g)
    (h : sameName m n = true → ∀ c, f (g c) = g (f c)) (t : Table) :
    (t.changeColumn n g).changeColumn m f = (t.changeColumn m f).changeColumn n g := by
  refine eq_of_columns (by simp only [changeColumn_name]) (List.ext_getElem? fun j => ?_)
  simp only [changeColumn_getElem?, position?_changeColumn hf, position?_changeColumn hg]
  by_cases hm : t.position? m = some j <;> by_cases hn : t.position? n = some j <;>
    simp only [hm, hn, if_true, if_false]
  have hcomm := h (sameName_of_position? hm hn)
  cases t.columns[j]? <;> simp [hcomm]

theorem changeColumn_changeColumn (hf : KeepsName f) (t : Table) (n : Text) :
    (t.changeColumn n f).changeColumn n g = t.changeColumn n fun c => g (f c) := by
  refine eq_of_columns (by simp only [changeColumn_name]) (List.ext_getElem? fun j => ?_)
  simp only [changeColumn_getElem?, position?_changeColumn hf]
  split
  · exact Option.map_map g f _
  · rfl

/-- A change of a column goes before other changes as well as after them. -/
theorem foldl_changeColumn_comm {α : Type} {as : List α} (name : α → Text)
    (change : α → Column → Column) (hf : KeepsName f) (hc : ∀ a, KeepsName (change a))
    (h : ∀ a ∈ as, sameName (name a) n = true → ∀ c, change a (f c) = f (change a c)) (t : Table) :
    as.foldl (fun t a => t.changeColumn (name a) (change a)) (t.changeColumn n f) =
      (as.foldl (fun t a => t.changeColumn (name a) (change a)) t).changeColumn n f := by
  induction as generalizing t with
  | nil => rfl
  | cons a as ih =>
    obtain ⟨ha, has⟩ := List.forall_mem_cons.mp h
    rw [List.foldl_cons, changeColumn_comm (change a) (hc a) hf ha, ih has, List.foldl_cons]

theorem changeColumn_id (t : Table) (n : Text) : t.changeColumn n id = t := by
  refine eq_of_columns changeColumn_name (List.ext_getElem? fun j => ?_)
  rw [changeColumn_getElem?]
  split
  · exact Option.map_id'
  · rfl

theorem changeColumn_of_position? {i : Nat} (h : t.position? n = some i) :
    t.changeColumn n f = { t with columns := t.columns.modify i f } := by
  unfold position? at h
  unfold changeColumn
  rw [h]

/-- A column at the end takes no name away from the columns before it. -/
theorem position?_append {i : Nat} (h : t.position? n = some i) (c : Column) :
    ({ t with columns := t.columns ++ [c] } : Table).position? n = some i := by
  rw [position?] at h ⊢
  rw [List.findIdx?_append, h, Option.some_or]

theorem position?_declare {i : Nat} (h : t.position? n = some i) (c : Column) :
    (t.declare c).position? n = some i := by
  unfold declare
  split
  · exact h
  · exact position?_append h c

/-- A column that is declared later stays out of the way of a change. -/
theorem declare_changeColumn {i : Nat} (hf : KeepsName f) (hn : t.position? n = some i)
    (c : Column) : (t.changeColumn n f).declare c = (t.declare c).changeColumn n f := by
  have hsome : ((t.changeColumn n f).column? c.name).isSome = (t.column? c.name).isSome := by
    rw [isSome_column?, isSome_column?, position?_changeColumn hf]
  unfold declare
  rw [hsome]
  split
  · rfl
  · have hlt : i < t.columns.length := by
      obtain ⟨⟨d, hd, -⟩, -⟩ := position?_eq_some_iff.mp hn
      exact (List.getElem?_eq_some_iff.mp hd).1
    rw [changeColumn_of_position? hn, changeColumn_of_position? (position?_append hn c),
      modify_append_of_lt hlt]

/-- A column that is new and stands at the end is the one that its name means. -/
theorem position?_append_self (hn : t.position? n = none) (hc : sameName c.name n = true) :
    ({ t with columns := t.columns ++ [c] } : Table).position? n = some t.columns.length := by
  rw [position?] at hn ⊢
  rw [List.findIdx?_append, hn]
  simp [hc]

theorem append_changeColumn (hn : t.position? n = none) (hc : sameName c.name n = true) :
    ({ t with columns := t.columns ++ [c] } : Table).changeColumn n f =
      { t with columns := t.columns ++ [f c] } := by
  rw [changeColumn_of_position? (position?_append_self hn hc), modify_append_length]

end Table

/-- A change that goes before marks as well as after them. -/
structure Unhindered (f : Column → Column) : Prop where
  name : KeepsName f
  primary : ∀ c, (f c).markPrimary = f c.markPrimary
  unique : ∀ c, (f c).markUnique = f c.markUnique

namespace Sql

variable {p : Text} {ps : List Text}

/-- A part makes a foreign key of the column of a name. -/
def Points (part name : Text) : Prop :=
  partKind part = .foreignKey ∧ ∃ table key child, foreignKey? table part = some key ∧
    child ∈ key.columns ∧ sameName child name = true

theorem mem_pairUp {first : Text} {children parents : List Text} {pair : Text × Text}
    (h : pair ∈ ForeignKey.pairUp first children parents) : pair.1 ∈ children := by
  fun_induction ForeignKey.pairUp first children parents with
  | case1 => cases h
  | case2 child children ih =>
    rcases List.mem_cons.mp h with rfl | h
    · exact List.mem_cons_self
    · exact List.mem_cons_of_mem child (ih h)
  | case3 child children parent parents ih =>
    rcases List.mem_cons.mp h with rfl | h
    · exact List.mem_cons_self
    · exact List.mem_cons_of_mem child (ih h)

/-- A change of a column goes before a part of the body as well as after it. -/
theorem applyPart_changeColumn (hf : Unhindered f)
    (hp : Points p n → ∀ table column c, (f c).pointAt table column = f (c.pointAt table column))
    (t : Table) : applyPart (t.changeColumn n f) p = (applyPart t p).changeColumn n f := by
  unfold applyPart
  split
  · exact Table.foldl_changeColumn_comm id (fun _ => Column.markPrimary) hf.name
      (fun _ _ => rfl) (fun _ _ _ => hf.primary) t
  · next hkind =>
    rw [Table.changeColumn_name]
    split
    · next key hkey =>
      refine Table.foldl_changeColumn_comm Prod.fst (fun pair => Column.pointAt key.refTable pair.2)
        hf.name (fun _ _ => rfl) (fun pair hm hs => ?_) t
      exact hp ⟨hkind, t.name, key, pair.1, hkey, mem_pairUp hm, hs⟩ key.refTable pair.2
    · rfl
  · unfold Table.applyUnique
    split
    · exact Table.changeColumn_comm Column.markUnique (fun _ => rfl) hf.name (fun _ => hf.unique) t
    · rfl
  all_goals rfl

theorem foldl_applyPart_changeColumn (hf : Unhindered f)
    (hp : ∀ p ∈ ps, Points p n →
      ∀ table column c, (f c).pointAt table column = f (c.pointAt table column))
    (t : Table) : ps.foldl applyPart (t.changeColumn n f) = (ps.foldl applyPart t).changeColumn n f := by
  induction ps generalizing t with
  | nil => rfl
  | cons p ps ih =>
    obtain ⟨hfirst, hps⟩ := List.forall_mem_cons.mp hp
    rw [List.foldl_cons, applyPart_changeColumn hf hfirst, ih hps, List.foldl_cons]

/-- Parts that come after a column declare others behind it. -/
theorem foldl_declarePart_changeColumn {i : Nat} (hf : KeepsName f)
    (hn : t.position? n = some i) (ps : List Text) :
    ps.foldl declarePart (t.changeColumn n f) = (ps.foldl declarePart t).changeColumn n f := by
  induction ps generalizing t with
  | nil => rfl
  | cons p ps ih =>
    have hpart : declarePart (t.changeColumn n f) p = (declarePart t p).changeColumn n f := by
      unfold declarePart
      split
      · exact Table.declare_changeColumn hf hn _
      · rfl
    have hmeans : (declarePart t p).position? n = some i := by
      unfold declarePart
      split
      · exact Table.position?_declare hn _
      · exact hn
    rw [List.foldl_cons, hpart, ih hmeans, List.foldl_cons]

namespace Clause

variable {k : Clause} {n : QuotedName} {l : Line} {before later : List Clause} {d : Definition}

/-- The line over one column that says what a clause says, where there is one. -/
def line? (n : QuotedName) : Clause → Option Line
  | unique => some (.unique [n])
  | primaryKey => some (.primaryKey [n])
  | references target => some (.foreignKey [n] target)
  | notNull | default _ => none

/-- What such a clause does to the column in whose definition it stands. -/
def change : Clause → Column → Column
  | unique => Column.markUnique
  | primaryKey => fun c => { c with isPrimary := true }
  | references target => Column.pointAt target.reference.table target.reference.column
  | notNull | default _ => id

/-- What a line does to the column besides. -/
def addition : Clause → Column → Column
  | primaryKey => fun c => { c with nullable := false }
  | _ => id

theorem unhindered_change (k : Clause) : Unhindered k.change := by
  cases k <;> exact ⟨fun _ => rfl, fun _ => rfl, fun _ => rfl⟩

theorem unhindered_addition (k : Clause) : Unhindered k.addition := by
  cases k <;> exact ⟨fun _ => rfl, fun _ => rfl, fun _ => rfl⟩

theorem change_pointAt (hk : ∀ target, k ≠ references target) (table column : Text) (c : Column) :
    (k.change c).pointAt table column = k.change (c.pointAt table column) := by
  cases k with
  | references target => exact (hk target rfl).elim
  | notNull | unique | primaryKey | default => rfl

theorem addition_pointAt (k : Clause) (table column : Text) (c : Column) :
    (k.addition c).pointAt table column = k.addition (c.pointAt table column) := by
  cases k <;> rfl

theorem apply_line? (h : k.line? n = some l) (t : Table) :
    l.apply t = (t.changeColumn n.word k.change).changeColumn n.word k.addition := by
  rw [Table.changeColumn_changeColumn k.unhindered_change.name]
  cases k with
  | unique | primaryKey =>
    cases h
    rfl
  | references target =>
    cases h
    obtain ⟨table, columns⟩ := target
    cases columns with
    | none => rfl
    | some names => cases names <;> rfl
  | notNull | default => cases h

/-- A clause is one more change of the column that the other clauses make. -/
theorem column_eq_change (hd : d.clauses = before ++ k :: later)
    (hk : ∀ target, k = references target → ∀ c ∈ before, c.reference? = none)
    (hl : k.line? n = some l) :
    d.column = k.change (Definition.column { d with clauses := before ++ later }) := by
  obtain ⟨name, type, clauses⟩ := d
  obtain rfl : clauses = before ++ k :: later := hd
  cases k with
  | unique | primaryKey =>
    simp [Definition.column, change, Column.markUnique, isUnique, isPrimaryKey, isNotNull, value?,
      reference?, List.findSome?_cons]
  | references target =>
    have hnone : before.findSome? reference? = none :=
      List.findSome?_eq_none_iff.mpr (hk target rfl)
    simp [Definition.column, change, Column.pointAt, isUnique, isPrimaryKey, isNotNull, value?,
      reference?, List.findSome?_cons, hnone]
  | notNull | default => cases hl

end Clause

variable {d d' : Definition} {pre post : List Text} {name : Text}

/-- Each column is declared by a part. -/
theorem exists_part_of_mem {c : Column} (h : c ∈ (pre.foldl declarePart ⟨name, []⟩).columns) :
    ∃ p ∈ pre, partKind p = .column ∧ column? p = some c := by
  refine List.foldlRecOn pre declarePart (motive := fun u => ∀ c ∈ u.columns,
    ∃ p ∈ pre, partKind p = .column ∧ column? p = some c) (by simp) ?_ c h
  intro u hu p hp c hc
  unfold declarePart at hc
  split at hc
  · next d hkind hread =>
    unfold Table.declare at hc
    split at hc
    · exact hu c hc
    · rcases List.mem_append.mp hc with hc | hc
      · exact hu c hc
      · obtain rfl := List.mem_singleton.mp hc
        exact ⟨p, hp, hkind, hread⟩
  · exact hu c hc

/-- Definitions whose columns differ by a change declare tables that differ by that change. -/
theorem foldl_declarePart_change (hf : KeepsName f) (hd : d.Valid) (hd' : d'.Valid)
    (hname : d'.name = d.name) (hc : d.column = f d'.column)
    (hnew : ∀ p ∈ pre, ∀ c, partKind p = .column → column? p = some c →
      sameName c.name d.name.word = false) (post : List Text) :
    (pre ++ d.print :: post).foldl declarePart ⟨name, []⟩ =
      ((pre ++ d'.print :: post).foldl declarePart ⟨name, []⟩).changeColumn d.name.word f := by
  have hnone : (pre.foldl declarePart ⟨name, []⟩).position? d.name.word = none := by
    rw [Table.position?, List.findIdx?_eq_none_iff]
    intro c hm
    obtain ⟨p, hp, hkind, hread⟩ := exists_part_of_mem hm
    exact hnew p hp c hkind hread
  generalize hu : pre.foldl declarePart ⟨name, []⟩ = u at hnone
  have hdeclare : ∀ e : Definition, e.Valid → e.name = d.name →
      declarePart u e.print = { u with columns := u.columns ++ [e.column] } := by
    intro e he hn
    have hfree : u.column? e.column.name = none := by
      rw [← Option.not_isSome_iff_eq_none, Table.isSome_column?, Definition.column, hn, hnone]
      decide
    rw [declarePart, e.partKind_print, he.column?_print]
    simp only [Table.declare, hfree, Option.isSome_none, Bool.false_eq_true, if_false]
  have hsame : sameName d'.column.name d.name.word = true := by
    simp [sameName, Definition.column, hname]
  rw [List.foldl_append, List.foldl_append, hu, List.foldl_cons, List.foldl_cons, hdeclare d hd rfl,
    hdeclare d' hd' hname, hc, ← Table.append_changeColumn hnone hsame,
    foldl_declarePart_changeColumn hf (Table.position?_append_self hnone hsame)]

variable {before later : List Clause} {k : Clause} {n : QuotedName} {l : Line}
  {ps xs ys : List Text} {s s' : Text}

theorem foldl_declarePart_line (l : Line) (xs ys : List Text) (t : Table) :
    (xs ++ l.print :: ys).foldl declarePart t = (xs ++ ys).foldl declarePart t := by
  rw [List.foldl_append, List.foldl_cons, declarePart_of_ne l.partKind_ne, List.foldl_append]

theorem foldl_applyPart_definition (d : Definition) (xs ys : List Text) (t : Table) :
    (xs ++ d.print :: ys).foldl applyPart t = (xs ++ ys).foldl applyPart t := by
  have hkind : ∀ p ∈ [d.print], partKind p = .column :=
    List.forall_mem_singleton.mpr d.partKind_print
  have hpart : ∀ u, applyPart u d.print = u := foldl_applyPart_columns hkind
  rw [List.foldl_append, List.foldl_cons, hpart, List.foldl_append]

/-- Wherever the line of a clause stands, it does what the clause would have done, and what the line
does besides. -/
theorem foldl_applyPart_line (hl : k.line? n = some l) (hv : l.Valid)
    (hfree : (∃ target, k = .references target) → ∀ p ∈ xs ++ ys, ¬ Points p n.word) (t : Table) :
    (xs ++ l.print :: ys).foldl applyPart t =
      ((xs ++ ys).foldl applyPart (t.changeColumn n.word k.change)).changeColumn n.word
        k.addition := by
  have hchange : ∀ ps, ps ⊆ xs ++ ys → ∀ u, ps.foldl applyPart (u.changeColumn n.word k.change) =
      (ps.foldl applyPart u).changeColumn n.word k.change := by
    intro ps hps u
    refine foldl_applyPart_changeColumn k.unhindered_change (fun p hp hpoints => ?_) u
    refine k.change_pointAt fun target hk => ?_
    exact hfree ⟨target, hk⟩ p (hps hp) hpoints
  have haddition : ∀ (ps : List Text) u, ps.foldl applyPart (u.changeColumn n.word k.addition) =
      (ps.foldl applyPart u).changeColumn n.word k.addition := fun ps u =>
    foldl_applyPart_changeColumn k.unhindered_addition (fun _ _ _ => k.addition_pointAt) u
  rw [List.foldl_append, List.foldl_cons, Line.applyPart_print hv, Clause.apply_line? hl,
    haddition, List.foldl_append, hchange xs (List.subset_append_left xs ys)]

/-- A clause that has a line of its own is as valid there. -/
theorem Clause.Valid.line? (hk : k.Valid) (hl : k.line? n = some l) : l.Valid := by
  rintro columns target rfl
  cases k with
  | references =>
    cases hl
    exact hk.names
  | unique | primaryKey | notNull | default => cases hl

/-- A definition stays valid without one of its clauses. -/
theorem Definition.Valid.without (hd : d.Valid) (hk : d.clauses = before ++ k :: later) :
    Definition.Valid { d with clauses := before ++ later } := by
  refine ⟨hd.name, hd.type, fun c hc => hd.clauses c ?_⟩
  rw [hk]
  rcases List.mem_append.mp hc with hc | hc
  · exact List.mem_append_left _ hc
  · exact List.mem_append_right _ (List.mem_cons_of_mem k hc)

/-- A definition makes no foreign key. -/
theorem Definition.not_points (d : Definition) (n : Text) : ¬ Points d.print n := by
  rintro ⟨hkind, -⟩
  rw [d.partKind_print] at hkind
  cases hkind

/-- The parts of a body give the same table when a clause moves to a line, and what the line does
besides. -/
theorem tableOf_moved (hd : d.Valid) (hk : d.clauses = before ++ k :: later)
    (hl : k.line? d.name = some l)
    (hnew : ∀ p ∈ pre, ∀ c, partKind p = .column → column? p = some c →
      sameName c.name d.name.word = false)
    (hone : ∀ target, k = .references target → (∀ c ∈ before, c.reference? = none) ∧
      ∀ p ∈ pre ++ post, ¬ Points p d.name.word)
    (hplace : xs ++ ys = pre ++ Definition.print { d with clauses := before ++ later } :: post) :
    tableOf name (xs ++ l.print :: ys) =
      (tableOf name (pre ++ d.print :: post)).changeColumn d.name.word k.addition := by
  have hd' := hd.without hk
  have hline : l.Valid := (hd.clauses k (by simp [hk])).line? hl
  have hfree : (∃ target, k = .references target) → ∀ p ∈ xs ++ ys, ¬ Points p d.name.word := by
    rintro ⟨target, hkind⟩ p hp
    have hothers := (hone target hkind).2
    rw [hplace] at hp
    rcases List.mem_append.mp hp with hp | hp
    · exact hothers p (List.mem_append_left post hp)
    · rcases List.mem_cons.mp hp with rfl | hp
      · exact Definition.not_points _ _
      · exact hothers p (List.mem_append_right pre hp)
  have hchange := Clause.column_eq_change hk (fun target hkind => (hone target hkind).1) hl
  have hdeclare : (pre ++ d.print :: post).foldl declarePart ⟨name, []⟩ = _ :=
    foldl_declarePart_change k.unhindered_change.name hd hd' rfl hchange hnew post
  rw [tableOf, foldl_declarePart_line, foldl_applyPart_line hl hline hfree, tableOf, hdeclare,
    hplace, foldl_applyPart_definition, foldl_applyPart_definition]

theorem Clause.addition_of_not_primary (hk : k.isPrimaryKey = false) : k.addition = id := by
  cases k with
  | primaryKey => cases hk
  | notNull | unique | default | references => rfl

/-- Moving a constraint from the definition of a column to a line of its own, anywhere in the body,
leaves the table as it is, but for a primary key: the line forbids null, which the clause does not.
No other reference may stand in front or point from the column. -/
theorem createTable_moved (hd : d.Valid) (hk : d.clauses = before ++ k :: later)
    (hl : k.line? d.name = some l)
    (hs : body? s = some (name, pre ++ d.print :: post))
    (hnew : ∀ p ∈ pre, ∀ c, partKind p = .column → column? p = some c →
      sameName c.name d.name.word = false)
    (hone : ∀ target, k = .references target → (∀ c ∈ before, c.reference? = none) ∧
      ∀ p ∈ pre ++ post, ¬ Points p d.name.word)
    (hplace : xs ++ ys =
      pre ++ Definition.print { d with clauses := before ++ later } :: post)
    (hs' : body? s' = some (name, xs ++ l.print :: ys)) :
    let t := tableOf name (pre ++ d.print :: post)
    createTable s = .ok (some t) ∧ createTable s' = .ok (some (
      if k.isPrimaryKey then t.changeColumn d.name.word fun c => { c with nullable := false }
      else t)) := by
  refine ⟨createTable_eq_some_iff.mpr ⟨_, _, hs, rfl⟩,
    createTable_eq_some_iff.mpr ⟨_, _, hs', ?_⟩⟩
  rw [tableOf_moved hd hk hl hnew hone hplace]
  cases hprimary : k.isPrimaryKey with
  | true =>
    cases k with
    | primaryKey => rfl
    | notNull | unique | default | references => cases hprimary
  | false =>
    rw [Clause.addition_of_not_primary hprimary, Table.changeColumn_id]
    rfl

/-- A column with two constraints. -/
def Definition.ofNumber : Definition where
  name := ⟨.backticks, "number".toList, by decide, by decide⟩
  type := "INT".toList
  clauses := [.unique, .primaryKey]

theorem Definition.valid_ofNumber : ofNumber.Valid := by
  refine ⟨by decide, ⟨[⟨"INT".toList, none⟩], by decide⟩, ?_⟩
  refine List.forall_mem_cons.mpr ⟨⟨by rintro _ ⟨⟩, by rintro _ ⟨⟩⟩, ?_⟩
  exact List.forall_mem_singleton.mpr ⟨by rintro _ ⟨⟩, by rintro _ ⟨⟩⟩

/-- The primary key of the second of two columns moves to the end of the body. -/
theorem createTable_moved_track : ∃ t,
    createTable "CREATE TABLE `track` (`id` INT, `number` INT UNIQUE PRIMARY KEY)".toList =
      .ok (some t) ∧
    createTable "CREATE TABLE `track` (`id` INT, `number` INT UNIQUE, PRIMARY KEY (`number`))".toList =
      .ok (some (t.changeColumn "number".toList fun c => { c with nullable := false })) := by
  have hclauses : Definition.ofNumber.clauses = [.unique] ++ .primaryKey :: [] := rfl
  have hinline : body? "CREATE TABLE `track` (`id` INT, `number` INT UNIQUE PRIMARY KEY)".toList =
      some ("track".toList, ["`id` INT".toList] ++ Definition.ofNumber.print :: []) := by
    decide +kernel
  have hline : body?
      "CREATE TABLE `track` (`id` INT, `number` INT UNIQUE, PRIMARY KEY (`number`))".toList =
        some ("track".toList, ["`id` INT".toList, "`number` INT UNIQUE".toList] ++
          (Line.primaryKey [Definition.ofNumber.name]).print :: []) := by
    decide +kernel
  have hread : column? "`id` INT".toList = some { name := "id".toList, type := "INT".toList } := by
    decide +kernel
  refine ⟨_, createTable_moved Definition.valid_ofNumber hclauses rfl hinline ?_
    (by rintro _ ⟨⟩) (by decide) hline⟩
  refine List.forall_mem_singleton.mpr fun c _ hc => ?_
  obtain rfl := Option.some.inj (hread.symm.trans hc)
  decide

/-- In the definition of a column a primary key allows null, on a line it does not. -/
theorem createTable_key_in_definition :
    createTable "CREATE TABLE `track` (`id` INT PRIMARY KEY)".toList = .ok (some
      ⟨"track".toList, [{ name := "id".toList, type := "INT".toList, isPrimary := true }]⟩) ∧
    createTable "CREATE TABLE `track` (`id` INT, PRIMARY KEY (`id`))".toList = .ok (some
      ⟨"track".toList, [{
        name := "id".toList, type := "INT".toList, isPrimary := true, nullable := false }]⟩) := by
  decide +kernel

end Sql
end SchemaDiagram
