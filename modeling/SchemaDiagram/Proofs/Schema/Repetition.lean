import SchemaDiagram.Proofs.Schema.Resolution

/-!
Foreign keys that are folded in once more. They change nothing where every column already points
where the last of them says, as it does when the same keys have just been folded in.
-/
namespace SchemaDiagram

/-- Of the elements with a property there is a last one. -/
theorem exists_last {α : Type} {P : α → Prop} {as : List α} (h : ∃ a ∈ as, P a) :
    ∃ pre a post, as = pre ++ a :: post ∧ P a ∧ ∀ b ∈ post, ¬ P b := by
  induction as with
  | nil =>
    obtain ⟨_, ha, -⟩ := h
    cases ha
  | cons a as ih =>
    by_cases hlater : ∃ b ∈ as, P b
    · obtain ⟨pre, b, post, rfl, hb, hpost⟩ := ih hlater
      exact ⟨a :: pre, b, post, rfl, hb, hpost⟩
    · have hnone : ∀ b ∈ as, ¬ P b := fun b hb hP => hlater ⟨b, hb, hP⟩
      obtain ⟨b, hb, hP⟩ := h
      rcases List.mem_cons.mp hb with rfl | hb
      · exact ⟨[], b, as, rfl, hP, hnone⟩
      · exact (hnone b hb hP).elim

namespace Schema

variable {s s' : Schema} {pairs : List KeyPair} {keys : List ForeignKey}

/-- A schema is its names and its columns. -/
theorem eq_of_cells (hs : s.shape = s'.shape) (hc : ∀ i j, s.cell? i j = s'.cell? i j) :
    s = s' := by
  apply List.ext_getElem?
  intro i
  have hnames := congrArg (·[i]?) hs
  have hcells : ∀ j, s[i]?.bind (·.columns[j]?) = s'[i]?.bind (·.columns[j]?) := hc i
  simp only [shape, List.getElem?_map] at hnames
  cases ht : s[i]? with
  | none =>
    rw [ht] at hnames
    exact (Option.map_eq_none_iff.mp hnames.symm).symm
  | some t =>
    rw [ht] at hnames hcells
    obtain ⟨u, hu, hname⟩ := Option.map_eq_some_iff.mp hnames.symm
    rw [hu] at hcells ⊢
    exact congrArg some (Table.eq_of_columns (congrArg Prod.fst hname).symm
      (List.ext_getElem? hcells))

/-- Every column points where the last of the pairs says that means it. -/
def Settled (s : Schema) (pairs : List KeyPair) : Prop :=
  ∀ i j c, s.cell? i j = some c → ∀ pre p post, pairs = pre ++ p :: post → p.Means s i j →
    (∀ q ∈ post, ¬ q.Means s i j) → c.pointAt p.target.table p.target.column = c

/-- Pairs change nothing exactly where they are settled. -/
theorem foldl_point_eq_self_iff : pairs.foldl point s = s ↔ s.Settled pairs := by
  constructor
  · intro h i j c hc pre p post hpairs hp hpost
    have hlast : ((pre ++ p :: post).foldl point s).cell? i j = _ := foldl_point_of_last hp hpost
    rw [← hpairs, h, hc] at hlast
    exact (Option.some.inj hlast).symm
  · intro h
    refine eq_of_cells (foldl_point_shape pairs) fun i j => ?_
    by_cases hmeans : ∃ p ∈ pairs, p.Means s i j
    · obtain ⟨pre, p, post, hpairs, hp, hpost⟩ := exists_last hmeans
      rw [hpairs, foldl_point_of_last hp hpost]
      cases hc : s.cell? i j with
      | none => rfl
      | some c => exact congrArg some (h i j c hc pre p post hpairs hp hpost)
    · exact foldl_point_of_not_means fun p hp hm => hmeans ⟨p, hp, hm⟩

/-- Where pairs have been folded in they are settled. -/
theorem settled_foldl_point (s : Schema) (pairs : List KeyPair) :
    (pairs.foldl point s).Settled pairs := by
  intro i j c hc pre p post hpairs hp hpost
  have hmeans : ∀ q : KeyPair, q.Means (pairs.foldl point s) i j ↔ q.Means s i j :=
    fun q => meansCell_iff_of_shape (foldl_point_shape pairs)
  have hlast : ((pre ++ p :: post).foldl point s).cell? i j = _ :=
    foldl_point_of_last ((hmeans p).mp hp) fun q hq => mt (hmeans q).mpr (hpost q hq)
  rw [← hpairs, hc] at hlast
  obtain ⟨d, -, rfl⟩ := Option.map_eq_some_iff.mp hlast.symm
  rfl

theorem applyForeignKeys_eq_self_iff :
    s.applyForeignKeys keys = s ↔ s.Settled (keys.flatMap ForeignKey.keyPairs) := by
  rw [applyForeignKeys_eq, foldl_point_eq_self_iff]

theorem settled_applyForeignKeys (s : Schema) (keys : List ForeignKey) :
    (s.applyForeignKeys keys).Settled (keys.flatMap ForeignKey.keyPairs) := by
  rw [applyForeignKeys_eq]
  exact settled_foldl_point s _

/-- Keys that have just been folded in change nothing more. -/
theorem applyForeignKeys_twice (s : Schema) (keys : List ForeignKey) :
    (s.applyForeignKeys keys).applyForeignKeys keys = s.applyForeignKeys keys :=
  applyForeignKeys_eq_self_iff.mpr (settled_applyForeignKeys s keys)

/-- Keys of the only table are folded into it one after another. -/
theorem applyForeignKeys_singleton {t : Table} (h : ∀ k ∈ keys, k.table = t.name) :
    applyForeignKeys [t] keys = [keys.foldl Table.applyForeign t] := by
  induction keys generalizing t with
  | nil => rfl
  | cons k keys ih =>
    obtain ⟨hk, hkeys⟩ := List.forall_mem_cons.mp h
    have hname : (t.applyForeign k).name = t.name :=
      Table.foldl_changeColumn (P := fun u => u.name = t.name) Prod.fst
        (fun pair => Column.pointAt k.refTable pair.2) k.pairs
        (fun _ _ hu => Table.changeColumn_name.trans hu) rfl
    have hfirst : changeTable [t] k.table (·.applyForeign k) = [t.applyForeign k] := by
      simp [changeTable, position?, hk]
    have hrest := ih (t := t.applyForeign k) (hname ▸ hkeys)
    rw [applyForeignKeys, List.foldl_cons, hfirst]
    exact hrest

end Schema
end SchemaDiagram
