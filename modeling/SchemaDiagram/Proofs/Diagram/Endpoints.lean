import SchemaDiagram.Proofs.Diagram.Extension
import SchemaDiagram.Proofs.Schema.Frame
import SchemaDiagram.Proofs.Text.LowerCase

/-!
The ends of a foreign key in a diagram. A reference finds its table in lower case, and a diagram
names its entities in upper case; the two agree but for a few capitals.
-/
namespace SchemaDiagram

variable {ts : List Table} {t u : Table} {c : Column} {r : Reference} {n : Text}

/-- The table that a name means is there, and agrees with the name in lower case. -/
theorem Schema.table?_eq_some {s : Schema} (h : s.table? n = some u) :
    u ∈ s ∧ Text.lower u.name = Text.lower n := by
  obtain ⟨i, hi, hu⟩ := Option.bind_eq_some_iff.mp h
  refine ⟨List.mem_of_getElem? hu, ?_⟩
  rcases Schema.position?_eq_some_iff.mp hi with ⟨⟨v, hv, hname⟩, -⟩ | ⟨-, ⟨v, hv, hname⟩, -⟩
  · obtain rfl := Option.some.inj (hv.symm.trans hu)
    rw [hname]
  · obtain rfl := Option.some.inj (hv.symm.trans hu)
    exact hname

namespace Diagram

/-- A name has a block among the entities of some tables. -/
def Shown (ts : List Table) (n : Text) : Prop := ∃ e ∈ entities ts, e.name = n

instance (ts : List Table) (n : Text) : Decidable (Shown ts n) :=
  inferInstanceAs (Decidable (∃ e ∈ entities ts, e.name = n))

/-- No table is without the entity that has its name in upper case, be it the first of it or not. -/
theorem shown_iff : Shown ts n ↔ ∃ t ∈ ts, Text.upper t.name = n := by
  have hfind := congrArg Option.isSome (find?_entities ts n)
  rw [Option.isSome_map, Bool.eq_iff_iff] at hfind
  simpa [Shown, List.find?_isSome] using hfind

theorem mem_pointers (hc : c ∈ t.columns) (hforeign : c.isForeign = true)
    (hr : c.reference = some r) : (c, r) ∈ t.pointers := by
  refine List.mem_filterMap.mpr ⟨c, hc, ?_⟩
  rw [if_pos hforeign, hr]
  rfl

theorem ofPointer_mem_arcs (ht : t ∈ ts) (hp : (c, r) ∈ t.pointers) (stated : List Relation) :
    Arc.ofPointer t (c, r) ∈ arcs ts stated := by
  obtain ⟨l, hl, hlink⟩ : ∃ l ∈ t.links, Arc.ofLink l = Arc.ofPointer t (c, r) := by
    rw [← List.mem_map, links_eq]
    exact List.mem_map_of_mem hp
  rw [← hlink]
  exact List.mem_append_right _ (List.mem_map_of_mem (List.mem_flatMap.mpr ⟨t, ht, hl⟩))

/-- A table that is found by a name of paired letters has the entity of that name. -/
theorem upper_eq_of_found (hu : Schema.table? ts n = some u)
    (h : u.name = n ∨ u.name.Paired ∧ n.Paired) : Text.upper u.name = Text.upper n := by
  rcases h with h | ⟨hname, hn⟩
  · rw [h]
  · exact Text.upper_eq_of_lower_eq hname hn (Schema.table?_eq_some hu).2

/-- The line of a foreign key column whose table is found has a block for the child in any case, and
one for the parent exactly where some table agrees with the reference in upper case. The table that
is found does so if it has the very name, or if neither name has one of the six capitals. -/
theorem endpoints_of_found (ht : t ∈ ts) (hc : c ∈ t.columns) (hforeign : c.isForeign = true)
    (hr : c.reference = some r) (hu : Schema.table? ts r.table = some u) (stated : List Relation) :
    let drawn := Arc.ofPointer t (c, r)
    lines ts stated = "erDiagram".toList ::
        ((entities ts).flatMap Entity.lines ++ (arcs ts stated).map Arc.line) ∧
      drawn ∈ arcs ts stated ∧ Shown ts drawn.child ∧
      (Shown ts drawn.parent ↔ ∃ v ∈ ts, Text.upper v.name = Text.upper r.table) ∧
      (u.name = r.table ∨ u.name.Paired ∧ r.table.Paired →
        (Entity.ofTable u).name = drawn.parent ∧ Shown ts drawn.parent) := by
  intro drawn
  have hpointer := mem_pointers hc hforeign hr
  have hlines := lines_eq (List.ne_nil_of_mem ht) stated
  refine ⟨hlines, ofPointer_mem_arcs ht hpointer stated, ?_, ?_, ?_⟩
  · exact shown_iff.mpr ⟨t, ht, rfl⟩
  · exact shown_iff
  · intro h
    have hname := upper_eq_of_found hu h
    exact ⟨hname, shown_iff.mpr ⟨u, (Schema.table?_eq_some hu).1, hname⟩⟩

/-- A reference in capitals finds a table with a sharp s, and both lead to one block. -/
theorem endpoints_of_found_street :
    let id : Column := { name := "id".toList, type := "int".toList }
    let street : Table := ⟨"Straße".toList, [id]⟩
    let r : Reference := ⟨"STRAßE".toList, "id".toList⟩
    let c : Column := { id with name := "home".toList, isForeign := true, reference := some r }
    let t : Table := ⟨"people".toList, [c]⟩
    Schema.table? [street, t] r.table = some street ∧ street.name ≠ r.table ∧
      Shown [street, t] (Arc.ofPointer t (c, r)).parent := by
  intro id street r c t
  have hu : Schema.table? [street, t] r.table = some street := by decide
  have hpaired : street.name.Paired ∧ r.table.Paired := by decide
  have ht : t ∈ [street, t] := by simp
  have hc : c ∈ t.columns := List.mem_singleton_self c
  obtain ⟨-, -, -, -, hparent⟩ := endpoints_of_found ht hc rfl rfl hu []
  exact ⟨hu, by decide, (hparent (Or.inr hpaired)).2⟩

/-- The capital sharp s has the lower case of the small one, whose upper case is a double s: the
table is found, and the line starts at a name without a block. -/
theorem endpoints_of_capital_sharp_s :
    let id : Column := { name := "id".toList, type := "int".toList }
    let street : Table := ⟨"straße".toList, [id]⟩
    let r : Reference := ⟨"STRAẞE".toList, "id".toList⟩
    let c : Column := { id with name := "home".toList, isForeign := true, reference := some r }
    let t : Table := ⟨"people".toList, [c]⟩
    Schema.table? [street, t] r.table = some street ∧
      lines [street, t] [] = ["erDiagram", "  STRASSE \x7b", "    INT id", "  \x7d",
        "  PEOPLE \x7b", "    INT home FK", "  \x7d", "  STRAẞE ||--o\x7b PEOPLE : home→id"].map (·.toList) ∧
      Arc.ofPointer t (c, r) ∈ arcs [street, t] [] ∧
      ¬ Shown [street, t] (Arc.ofPointer t (c, r)).parent := by
  decide

end Diagram
end SchemaDiagram
