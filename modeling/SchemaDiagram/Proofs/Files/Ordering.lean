import Mathlib.Data.List.Sort
import SchemaDiagram.Files.Path

/-!
Paths in the order of their names. Sorting keeps all paths and puts them into this order, and there
is only one way to do so when no two of them have the same names.
-/
namespace SchemaDiagram.Path

/-- The names of each path come before the names of those behind it, so that none is there twice. -/
def Increasing (ps : List Path) : Prop := ps.Pairwise fun p q => p.parts < q.parts

variable {p q : Path} {ps qs : List Path}

theorem textBefore_iff (s t : Text) : textBefore s t = true ↔ s < t := by
  induction s generalizing t with
  | nil => cases t <;> simp [textBefore]
  | cons c s ih =>
    cases t with
    | nil => simp [textBefore]
    | cons d t =>
      rw [textBefore, List.cons_lt_cons_iff]
      by_cases h : c = d
      · subst h
        rw [if_pos rfl, ih]
        simp
      · have hchar : c.toNat < d.toNat ↔ c < d := UInt32.lt_iff_toNat_lt.symm
        simp [h, hchar]

theorem partsBefore_iff (s t : List Text) : partsBefore s t = true ↔ s < t := by
  induction s generalizing t with
  | nil => cases t <;> simp [partsBefore]
  | cons a s ih =>
    cases t with
    | nil => simp [partsBefore]
    | cons b t =>
      rw [partsBefore, List.cons_lt_cons_iff]
      by_cases h : a = b
      · subst h
        rw [if_pos rfl, ih]
        simp
      · simp [h, textBefore_iff]

theorem before_iff (p q : Path) : before p q = true ↔ p.parts < q.parts :=
  partsBefore_iff p.parts q.parts

/-- A path may stand in front of another one: the other does not come before it. -/
def AtMost (p q : Path) : Prop := before q p = false

instance : DecidableRel AtMost := fun p q => inferInstanceAs (Decidable (before q p = false))

theorem atMost_iff : AtMost p q ↔ ¬ q.parts < p.parts := by
  rw [AtMost, ← before_iff, Bool.not_eq_true]

instance : Std.Total AtMost where
  total p q := by
    rw [atMost_iff, atMost_iff]
    by_cases h : q.parts < p.parts
    · exact Or.inr (List.lt_asymm h)
    · exact Or.inl h

instance : IsTrans Path AtMost where
  trans p q r hpq hqr := by
    rw [atMost_iff] at hpq hqr ⊢
    exact List.not_lt.mpr (List.le_trans (List.not_lt.mp hpq) (List.not_lt.mp hqr))

theorem insert_eq_orderedInsert (p : Path) (qs : List Path) :
    insert p qs = qs.orderedInsert AtMost p := by
  induction qs with
  | nil => rfl
  | cons q qs ih =>
    rw [insert, List.orderedInsert_cons, ih]
    cases h : before q p with
    | false => rw [if_neg Bool.false_ne_true, if_pos (show AtMost p q from h)]
    | true => rw [if_pos rfl, if_neg (show ¬ AtMost p q by simp [AtMost, h])]

theorem sort_eq_insertionSort (ps : List Path) : sort ps = ps.insertionSort AtMost := by
  induction ps with
  | nil => rfl
  | cons p ps ih => rw [sort, List.insertionSort_cons, insert_eq_orderedInsert, ih]

theorem sort_perm (ps : List Path) : (sort ps).Perm ps := by
  rw [sort_eq_insertionSort]
  exact List.perm_insertionSort AtMost ps

theorem mem_sort : p ∈ sort ps ↔ p ∈ ps := (sort_perm ps).mem_iff

/-- Different paths from one root are in increasing order once they are sorted. -/
theorem increasing_sort {root : Text} (h : ps.Nodup) (hroot : ∀ p ∈ ps, p.root = root) :
    Increasing (sort ps) := by
  have hsorted : (sort ps).Pairwise AtMost := by
    rw [sort_eq_insertionSort]
    exact List.pairwise_insertionSort AtMost ps
  have hnodup : (sort ps).Nodup := (sort_perm ps).nodup_iff.mpr h
  refine (hsorted.and hnodup).imp_of_mem fun {p q} hp hq ⟨hle, hne⟩ => ?_
  by_contra hlt
  have hparts : p.parts = q.parts :=
    List.le_antisymm (List.not_lt.mp (atMost_iff.mp hle)) (List.not_lt.mp hlt)
  have hroots : p.root = q.root :=
    (hroot p (mem_sort.mp hp)).trans (hroot q (mem_sort.mp hq)).symm
  cases p
  cases q
  exact hne (congrArg₂ Path.mk hroots hparts)

/-- Paths in increasing order are told apart by what they are, not by their places. -/
theorem Increasing.eq_of_mem_iff (hp : Increasing ps) (hq : Increasing qs)
    (h : ∀ p, p ∈ ps ↔ p ∈ qs) : ps = qs := by
  have : Std.Irrefl fun p q : Path => p.parts < q.parts := ⟨fun p => List.lt_irrefl p.parts⟩
  have : Std.Antisymm fun p q : Path => p.parts < q.parts :=
    ⟨fun _ _ hpq hqp => (List.lt_asymm hpq hqp).elim⟩
  exact List.Pairwise.eq_of_mem_iff hp hq h

end SchemaDiagram.Path
