import SchemaDiagram.Proofs.Schema.Building
import SchemaDiagram.Proofs.Schema.Frame

/-!
Foreign keys after a script. Each column points where the last pair says that means it; the pairs
that a second look finds come last.
-/
namespace SchemaDiagram

variable {s s' : Schema} {k : ForeignKey} {i j : Nat}

/-- A column of a foreign key, named with its table, and the column that it points at. -/
structure KeyPair where
  table : Text
  column : Text
  target : Reference

namespace ForeignKey

/-- The parent column of a child: the one at its place, else the first one, else the implied one. -/
def parent (k : ForeignKey) (i : Nat) : Text :=
  match k.refColumns[i]?, k.refColumns with
  | some column, _ => column
  | none, first :: _ => first
  | none, [] => impliedColumn

def keyPairs (k : ForeignKey) : List KeyPair :=
  k.columns.mapIdx fun i column => ⟨k.table, column, k.refTable, k.parent i⟩

theorem parent_eq (i : Nat) :
    k.parent i = k.refColumns[i]?.getD (k.refColumns.headD impliedColumn) := by
  unfold parent
  split <;> simp_all

theorem pairUp_eq (first : Text) (children parents : List Text) :
    pairUp first children parents =
      children.mapIdx fun i child => (child, parents[i]?.getD first) := by
  induction children generalizing parents with
  | nil => simp [pairUp]
  | cons child children ih => cases parents <;> simp [pairUp, ih, List.mapIdx_cons]

theorem pairs_eq : k.pairs = k.columns.mapIdx fun i child => (child, k.parent i) := by
  simp only [pairs, pairUp_eq, parent_eq]

theorem keyPairs_eq :
    k.keyPairs = k.pairs.map fun pair => ⟨k.table, pair.1, k.refTable, pair.2⟩ := by
  simp [keyPairs, pairs_eq, List.mapIdx_eq_zipIdx_map]

end ForeignKey

/-- The pair means the `j`th column of the `i`th table. -/
def KeyPair.Means (p : KeyPair) (s : Schema) (i j : Nat) : Prop :=
  s.MeansCell p.table p.column i j

namespace Schema

variable {p q : KeyPair}

/-- Points the column that a pair means at its target. -/
def point (s : Schema) (p : KeyPair) : Schema :=
  s.changeCell p.table p.column (Column.pointAt p.target.table p.target.column)

theorem point_shape : (s.point p).shape = s.shape := changeCell_shape fun _ => rfl

/-- No pair changes what another pair means. -/
theorem means_point_iff : q.Means (s.point p) i j ↔ q.Means s i j :=
  meansCell_iff_of_shape point_shape

theorem point_of_means (h : p.Means s i j) :
    (s.point p).cell? i j = (s.cell? i j).map (Column.pointAt p.target.table p.target.column) :=
  changeCell_of_means h

theorem point_of_not_means (h : ¬ p.Means s i j) : (s.point p).cell? i j = s.cell? i j :=
  changeCell_of_not_means h

theorem foldl_point_shape (pairs : List KeyPair) : (pairs.foldl point s).shape = s.shape :=
  List.foldlRecOn pairs point (motive := fun s' => s'.shape = s.shape) rfl
    fun _ h _ _ => point_shape.trans h

theorem foldl_point_of_not_means {pairs : List KeyPair} (h : ∀ p ∈ pairs, ¬ p.Means s i j) :
    (pairs.foldl point s).cell? i j = s.cell? i j := by
  induction pairs generalizing s with
  | nil => rfl
  | cons p pairs ih =>
    have hrest : ∀ q ∈ pairs, ¬ q.Means (s.point p) i j := by
      intro q hq
      rw [means_point_iff]
      exact h q (List.mem_cons_of_mem p hq)
    rw [List.foldl_cons, ih hrest, point_of_not_means (h p (by simp))]

/-- Pairs before the last one that means a column are overwritten, later ones pass it over. -/
theorem foldl_point_of_last {pre post : List KeyPair} (hp : p.Means s i j)
    (h : ∀ q ∈ post, ¬ q.Means s i j) :
    ((pre ++ p :: post).foldl point s).cell? i j =
      (s.cell? i j).map (Column.pointAt p.target.table p.target.column) := by
  induction pre generalizing s with
  | nil =>
    have hpost : ∀ q ∈ post, ¬ q.Means (s.point p) i j := by
      intro q hq
      rw [means_point_iff]
      exact h q hq
    rw [List.nil_append, List.foldl_cons, foldl_point_of_not_means hpost, point_of_means hp]
  | cons first pre ih =>
    have hpost : ∀ q ∈ post, ¬ q.Means (s.point first) i j := by
      intro q hq
      rw [means_point_iff]
      exact h q hq
    rw [List.cons_append, List.foldl_cons, ih (means_point_iff.mpr hp) hpost]
    by_cases hf : first.Means s i j
    · rw [point_of_means hf]
      cases s.cell? i j <;> rfl
    · rw [point_of_not_means hf]

/-- Foreign keys are folded in pair by pair. -/
theorem applyForeignKeys_eq (keys : List ForeignKey) :
    s.applyForeignKeys keys = (keys.flatMap ForeignKey.keyPairs).foldl point s := by
  have hkey : ∀ (s : Schema) (k : ForeignKey),
      s.changeTable k.table (fun t => t.applyForeign k) = k.keyPairs.foldl point s := by
    intro s k
    rw [ForeignKey.keyPairs_eq, List.foldl_map]
    exact changeTable_foldl (fun pair t => t.changeColumn pair.1 (Column.pointAt k.refTable pair.2))
      k.pairs fun _ _ => Table.changeColumn_name
  rw [applyForeignKeys, List.foldl_flatMap]
  simp only [hkey]

/-- The columns of the second schema are those of the first, some of them marked as keys. -/
structure Keyed (s s' : Schema) : Prop where
  shape : s'.shape = s.shape
  cell : ∀ i j c, s.cell? i j = some c →
    ∃ d, s'.cell? i j = some d ∧ (d = c ∨ d = c.markPrimary)

theorem Keyed.changeCell (h : Keyed s s') (table column : Text) :
    Keyed s (s'.changeCell table column Column.markPrimary) := by
  have hname : ∀ c : Column, c.markPrimary.name = c.name := fun _ => rfl
  refine ⟨(changeCell_shape hname).trans h.shape, ?_⟩
  intro i j c hc
  obtain ⟨d, hd, hdc⟩ := h.cell i j c hc
  by_cases hm : s'.MeansCell table column i j
  · rw [changeCell_of_means hm, hd]
    exact ⟨d.markPrimary, rfl, Or.inr (by rcases hdc with rfl | rfl <;> rfl)⟩
  · rw [changeCell_of_not_means hm]
    exact ⟨d, hd, hdc⟩

theorem applyPrimaryKeys_keyed (s : Schema) (keys : List PrimaryKey) :
    Keyed s (s.applyPrimaryKeys keys) := by
  have hkey : ∀ (s' : Schema) (k : PrimaryKey),
      s'.changeTable k.table (fun t => t.applyPrimary k.columns) =
        k.columns.foldl (fun s column => s.changeCell k.table column Column.markPrimary) s' := by
    intro s' k
    exact changeTable_foldl (fun column t => t.changeColumn column Column.markPrimary)
      k.columns fun _ _ => Table.changeColumn_name
  unfold applyPrimaryKeys
  simp only [hkey]
  apply List.foldlRecOn
  · exact ⟨rfl, fun i j c hc => ⟨c, hc, Or.inl rfl⟩⟩
  · intro s' h k _
    exact List.foldlRecOn k.columns _ h fun _ h column _ => h.changeCell k.table column

end Schema

namespace Building

variable {engines : List Engine} {engine : Engine} {readers : Readers} {script : Text}
  {found : Declarations}

/-- After a script that can be read, each column of the old and the new tables points where the
last pair says that means it. Without such a pair it is as it was but for primary keys; and what
means no column has no effect. -/
theorem addScript_resolution (s : Schema)
    (hp : Engine.pick engines (Dialect.detect script) = .ok engine)
    (hr : engine.read script readers = .ok found) :
    ∃ recovered after, engine.recover script readers = .ok recovered ∧
      (addScript engines script readers).run s = (.ok found.tables.length, after) ∧
      let declared : Schema := s ++ found.tables
      let pairs := (found.foreignKeys ++ recovered).flatMap ForeignKey.keyPairs
      after.shape = declared.shape ∧ ∀ i j c, declared.cell? i j = some c →
        ∃ d e, (declared.applyPrimaryKeys found.primaryKeys).cell? i j = some d ∧
          (d = c ∨ d = c.markPrimary) ∧ after.cell? i j = some e ∧
          (∀ pre p post, pairs = pre ++ p :: post → p.Means declared i j →
            (∀ q ∈ post, ¬ q.Means declared i j) →
            e = d.pointAt p.target.table p.target.column) ∧
          ((∀ p ∈ pairs, ¬ p.Means declared i j) → e = d) := by
  obtain ⟨recovered, hs⟩ := Engine.recover_of_read hr
  refine ⟨recovered, _, hs, addScript_of_read hp hr hs, ?_⟩
  intro declared pairs
  have hkeyed := Schema.applyPrimaryKeys_keyed declared found.primaryKeys
  have hextend : s.extend found recovered =
      pairs.foldl Schema.point (declared.applyPrimaryKeys found.primaryKeys) := by
    simp only [Schema.extend, Schema.applyForeignKeys_eq, ← List.foldl_append,
      ← List.flatMap_append, pairs, declared]
  have hmeans : ∀ (p : KeyPair) i j,
      p.Means (declared.applyPrimaryKeys found.primaryKeys) i j ↔ p.Means declared i j :=
    fun _ _ _ => Schema.meansCell_iff_of_shape hkeyed.shape
  rw [hextend]
  have hshape := (Schema.foldl_point_shape pairs).trans hkeyed.shape
  refine ⟨hshape, ?_⟩
  intro i j c hc
  obtain ⟨d, hd, hdc⟩ := hkeyed.cell i j c hc
  obtain ⟨e, he⟩ := Schema.cell?_of_shape hshape hc
  refine ⟨d, e, hd, hdc, he, ?_, ?_⟩
  · intro pre p post hpairs hm hno
    rw [hpairs, Schema.foldl_point_of_last ((hmeans p i j).mpr hm)
      fun q hq => mt (hmeans q i j).mp (hno q hq), hd] at he
    exact (Option.some.inj he).symm
  · intro hno
    rw [Schema.foldl_point_of_not_means fun p hp => mt (hmeans p i j).mp (hno p hp), hd] at he
    exact (Option.some.inj he).symm

/-- A key of a table that is named in another letter case is found twice; both times it means the
only column. -/
theorem addScript_resolution_alter :
    let script : Text := ("CREATE TABLE a (b INT) ENGINE=x; " ++
      "ALTER TABLE A ADD FOREIGN KEY (B) REFERENCES c (d)").toList
    Engine.pick Engine.all (Dialect.detect script) = .ok .scanner ∧
    (∃ found, Engine.scanner.read script = .ok found) ∧
    ∃ after, (addScript Engine.all script).run [] = (.ok 1, after) ∧
      (after.cell? 0 0).bind (·.reference) = some ⟨"c".toList, "d".toList⟩ := by
  intro script
  have hp : Engine.pick Engine.all (Dialect.detect script) = .ok .scanner :=
    eq_ok_of_toOption (by decide)
  have hr : Engine.scanner.read script = .ok {
      tables := [⟨"a".toList, [{ name := "b".toList, type := "INT".toList }]⟩]
      foreignKeys := [⟨"A".toList, ["B".toList], "c".toList, ["d".toList], none⟩] } :=
    eq_ok_of_toOption (by decide +kernel)
  have hs : Engine.scanner.recover script =
      .ok [⟨"A".toList, ["B".toList], "c".toList, ["d".toList], none⟩] :=
    eq_ok_of_toOption (by decide +kernel)
  obtain ⟨recovered, after, hs', hrun, -, hcell⟩ := addScript_resolution [] hp hr
  obtain rfl := Except.ok.inj (hs'.symm.trans hs)
  obtain ⟨d, e, -, -, he, hlast, -⟩ := hcell 0 0 { name := "b".toList, type := "INT".toList } rfl
  refine ⟨hp, ⟨_, hr⟩, after, hrun, ?_⟩
  have hmeans : KeyPair.Means ⟨"A".toList, "B".toList, "c".toList, "d".toList⟩
      [⟨"a".toList, [{ name := "b".toList, type := "INT".toList }]⟩] 0 0 := by
    refine ⟨Schema.position?_eq_some_iff.mp (by decide), _, rfl,
      Table.position?_eq_some_iff.mp (by decide)⟩
  have hpoint := hlast [⟨"A".toList, "B".toList, "c".toList, "d".toList⟩] _ [] rfl hmeans (by simp)
  rw [he, hpoint]
  rfl

end Building
end SchemaDiagram
