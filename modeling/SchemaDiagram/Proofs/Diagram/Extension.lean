import SchemaDiagram.Proofs.Diagram.Contents

/-!
The diagram of one more table. Entities go by their names in upper case: the first table of a name
has a block, and the tables after it have none. The foreign keys of all tables are shown, also of
those without a block.
-/
namespace SchemaDiagram

variable {ts : List Table} {t : Table} {c : Column} {n : Text}

/-- The foreign key columns of a table with what they point at, in the order of the columns. -/
def Table.pointers (t : Table) : List (Column × Reference) :=
  t.columns.filterMap fun c => if c.isForeign then c.reference.map (c, ·) else none

/-- A column is one to one with its parent when it is unique or the only one in the primary key. -/
theorem Table.isSingular_iff (hc : c ∈ t.columns) :
    t.isSingular c = true ↔ c.isUnique = true ∨ t.primaryColumns = [c] := by
  have hprimary : c.isPrimary = true ∧ t.primaryColumns.length = 1 ↔ t.primaryColumns = [c] := by
    constructor
    · rintro ⟨hp, hlength⟩
      obtain ⟨d, hd⟩ := List.length_eq_one_iff.mp hlength
      have hmem : c ∈ t.primaryColumns := List.mem_filter.mpr ⟨hc, hp⟩
      rw [hd] at hmem
      rw [hd, List.mem_singleton.mp hmem]
    · intro h
      have hmem : c ∈ t.primaryColumns := by rw [h]; exact List.mem_singleton_self c
      exact ⟨(List.mem_filter.mp hmem).2, by rw [h]; rfl⟩
  simp [isSingular, hprimary]

/-- Where the foreign keys are the columns with a reference, each of them is a pointer. -/
theorem Table.map_pointers (h : ∀ c ∈ t.columns, c.isForeign = c.reference.isSome) :
    t.pointers.map (·.1) = t.columns.filter (·.isForeign) := by
  rw [pointers, List.map_filterMap, ← List.filterMap_eq_filter]
  refine List.filterMap_congr fun c hc => ?_
  have hforeign := h c hc
  cases hr : c.reference <;> simp [hforeign, hr, Option.guard]

namespace Diagram

/-- The arc of a foreign key column of a table. -/
def Arc.ofPointer (t : Table) (p : Column × Reference) : Arc :=
  { parent := Text.upper p.2.table
    arrow := if p.1.isUnique = true ∨ t.primaryColumns = [p.1] then .one else .many
    child := Text.upper t.name
    label := Diagram.label (p.1.name ++ ['→'] ++ p.2.column) }

theorem links_eq (t : Table) : t.links.map Arc.ofLink = t.pointers.map (Arc.ofPointer t) := by
  rw [Table.links, Table.pointers, List.filterMap_filter, List.map_filterMap, List.map_filterMap]
  refine List.filterMap_congr fun c hc => ?_
  have hsingular := t.isSingular_iff hc
  cases hf : c.isForeign with
  | false => rfl
  | true =>
    cases hr : c.reference with
    | none => rfl
    | some r => simp [Arc.ofLink, Arc.ofPointer, hsingular]

variable {seen : List Text}

theorem firsts_concat (seen : List Text) (ts : List Table) (t : Table) :
    firsts seen (ts ++ [t]) = firsts seen ts ++
      if entityName t.name ∈ seen ++ ts.map (entityName ·.name) then [] else [t] := by
  fun_induction firsts seen ts with
  | case1 seen => by_cases ht : entityName t.name ∈ seen <;> simp [firsts, ht]
  | case2 seen u ts hu ih =>
    have hmem : entityName u.name ∈ seen := by simpa using hu
    have hiff : entityName t.name ∈ seen ++ (u :: ts).map (entityName ·.name) ↔
        entityName t.name ∈ seen ++ ts.map (entityName ·.name) := by
      simp only [List.map_cons, List.mem_append, List.mem_cons]
      constructor
      · rintro (h | h | h)
        · exact Or.inl h
        · exact Or.inl (h ▸ hmem)
        · exact Or.inr h
      · rintro (h | h)
        · exact Or.inl h
        · exact Or.inr (Or.inr h)
    rw [List.cons_append, firsts, if_pos hu, ih, if_congr hiff rfl rfl]
  | case3 seen u ts hu ih =>
    have hiff : entityName t.name ∈ seen ++ (u :: ts).map (entityName ·.name) ↔
        entityName t.name ∈ (entityName u.name :: seen) ++ ts.map (entityName ·.name) := by
      simp only [List.map_cons, List.cons_append, List.mem_append, List.mem_cons]
      tauto
    rw [List.cons_append, firsts, if_neg hu, ih, if_congr hiff rfl rfl]
    rfl

/-- No table that is left has an entity that was seen before. -/
theorem not_mem_of_mem_firsts (ht : t ∈ firsts seen ts) : entityName t.name ∉ seen := by
  fun_induction firsts seen ts with
  | case1 => cases ht
  | case2 _ _ _ _ ih => exact ih ht
  | case3 seen u ts hu ih =>
    rcases List.mem_cons.mp ht with rfl | ht
    · simpa using hu
    · exact fun hm => ih ht (List.mem_cons_of_mem _ hm)

theorem nodup_firsts (seen : List Text) (ts : List Table) :
    ((firsts seen ts).map (entityName ·.name)).Nodup := by
  fun_induction firsts seen ts with
  | case1 => exact List.nodup_nil
  | case2 _ _ _ _ ih => exact ih
  | case3 seen u ts _ ih =>
    refine List.nodup_cons.mpr ⟨fun hm => ?_, ih⟩
    obtain ⟨v, hv, hname⟩ := List.mem_map.mp hm
    exact not_mem_of_mem_firsts hv (hname ▸ List.mem_cons_self)

/-- The first table of each entity is kept. -/
theorem find?_firsts (n : Text) (seen : List Text) (ts : List Table) :
    (firsts seen ts).find? (entityName ·.name == n) =
      if n ∈ seen then none else ts.find? (entityName ·.name == n) := by
  fun_induction firsts seen ts with
  | case1 => simp
  | case2 seen u ts hu ih =>
    have hmem : entityName u.name ∈ seen := by simpa using hu
    by_cases hn : n ∈ seen
    · simp [ih, hn]
    · have hne : entityName u.name ≠ n := fun h => hn (h ▸ hmem)
      simp [ih, hn, hne]
  | case3 seen u ts hu ih =>
    have hmem : entityName u.name ∉ seen := by simpa using hu
    by_cases hn : entityName u.name = n
    · subst hn
      simp [hmem]
    · simp [ih, hn, Ne.symm hn]

theorem entities_concat (ts : List Table) (t : Table) : entities (ts ++ [t]) =
    entities ts ++
      if ∃ u ∈ ts, Text.upper u.name = Text.upper t.name then [] else [Entity.ofTable t] := by
  have hmem : entityName t.name ∈ [] ++ ts.map (entityName ·.name) ↔
      ∃ u ∈ ts, Text.upper u.name = Text.upper t.name := by
    simp [entityName]
  rw [entities, firsts_concat, List.map_append, entities]
  simp only [hmem]
  split <;> rfl

theorem nodup_headers (ts : List Table) : ((entities ts).map Entity.header).Nodup := by
  have hheaders : (entities ts).map Entity.header =
      ((firsts [] ts).map (entityName ·.name)).map fun n => "  ".toList ++ (n ++ " \x7b".toList) := by
    simp only [entities, List.map_map]
    rfl
  rw [hheaders]
  refine List.Nodup.map (fun m n h => ?_) (nodup_firsts [] ts)
  exact List.append_cancel_right (List.append_cancel_left h)

theorem find?_entities (ts : List Table) (n : Text) : (entities ts).find? (·.name == n) =
    (ts.find? (Text.upper ·.name == n)).map Entity.ofTable := by
  have hfirst := find?_firsts n [] ts
  rw [if_neg List.not_mem_nil] at hfirst
  rw [entities, List.find?_map, ← show _ = ts.find? (Text.upper ·.name == n) from hfirst]
  rfl

theorem arcs_concat (ts : List Table) (t : Table) (stated : List Relation) :
    arcs (ts ++ [t]) stated = arcs ts stated ++ t.pointers.map (Arc.ofPointer t) := by
  simp [arcs, links_eq]

/-- The lines of a diagram of one more table: the block of the table comes after the last block, if
no table before has its entity, and the lines of its foreign key columns come at the end in any case.
All entities have headers of their own and show the first table of their name. -/
theorem lines_concat (hne : ts ≠ []) (t : Table) (stated : List Relation) :
    let blocks := (entities ts).flatMap Entity.lines
    let block := if ∃ u ∈ ts, Text.upper u.name = Text.upper t.name then []
      else (Entity.ofTable t).lines
    let drawn := (arcs ts stated).map Arc.line
    let pointing := t.pointers.map fun p => (Arc.ofPointer t p).line
    lines ts stated = "erDiagram".toList :: (blocks ++ drawn) ∧
      lines (ts ++ [t]) stated = "erDiagram".toList :: (blocks ++ block ++ drawn ++ pointing) ∧
      (∀ us ∈ [ts, ts ++ [t]], Text.splitAt '\n' (render us stated) =
        (lines us stated).flatMap (Text.splitAt '\n')) ∧
      ((∀ c ∈ t.columns, c.isForeign = c.reference.isSome) →
        t.pointers.map (·.1) = t.columns.filter (·.isForeign)) ∧
      ((entities (ts ++ [t])).map Entity.header).Nodup ∧
      ∀ n, (entities (ts ++ [t])).find? (·.name == n) =
        ((ts ++ [t]).find? (Text.upper ·.name == n)).map Entity.ofTable := by
  intro blocks block drawn pointing
  have hlines := lines_eq hne stated
  have hmore : ts ++ [t] ≠ [] := by simp
  refine ⟨hlines, ?_, ?_, Table.map_pointers, nodup_headers _, find?_entities _⟩
  · have hblock : (if ∃ u ∈ ts, Text.upper u.name = Text.upper t.name then []
        else [Entity.ofTable t]).flatMap Entity.lines = block := by
      unfold block
      split <;> simp
    rw [lines_eq hmore, entities_concat, arcs_concat, List.flatMap_append, hblock, List.map_append,
      List.map_map]
    simp only [List.append_assoc, blocks, drawn, pointing, Function.comp_def]
  · intro us hus
    have hus : us ≠ [] := by
      rcases List.mem_pair.mp hus with rfl | rfl
      · exact hne
      · exact hmore
    exact Text.splitAt_join_eq_flatMap (by simp [lines_eq hus])

/-- A table that comes again in other letters has no block, and its foreign keys are shown. -/
theorem lines_concat_again :
    let id : Column := { name := "id".toList, type := "int".toList, isPrimary := true }
    let boss : Column :=
      { name := "boss".toList, type := "int".toList, reference := some ⟨"users".toList, "id".toList⟩ }
    let person : Column := { id with reference := some ⟨"people".toList, "id".toList⟩, isForeign := true }
    let ts : List Table := [⟨"users".toList, [id]⟩]
    let t : Table := ⟨"Users".toList, [person, boss]⟩
    ts ≠ [] ∧
      lines ts [] = ["erDiagram", "  USERS \x7b", "    INT id PK", "  \x7d"].map (·.toList) ∧
      lines (ts ++ [t]) [] = ["erDiagram", "  USERS \x7b", "    INT id PK", "  \x7d",
        "  PEOPLE ||--|| USERS : id→id", "  USERS ||--o\x7b USERS : boss→id"].map (·.toList) := by
  intro id boss person ts t
  have hne : ts ≠ [] := by simp [ts]
  obtain ⟨hlines, hmore, -⟩ := lines_concat hne t []
  exact ⟨hne, hlines.trans (by decide), hmore.trans (by decide)⟩

end Diagram
end SchemaDiagram
