import SchemaDiagram.Proofs.Sql.Lines

/-! Reading back the statement that creates a table. What is read is the table that was written. -/
namespace SchemaDiagram

open Sql

variable {t : Table} {columns : List Column} {scope : List Text} {scopes : Column → List Text}

namespace Sql

/-- Columns with names of their own are declared one after the other. -/
theorem foldl_declarePart (hc : ∀ c ∈ columns, c.Printable) (hf : ∀ c ∈ columns, c.Consistent)
    (hs : ∀ c ∈ columns, ∀ q ∈ scopes c, IsName q)
    (hn : ((t.columns ++ columns).map fun c => Text.lower c.name).Nodup) :
    (columns.map fun c => c.print (scopes c)).foldl declarePart t =
      { t with columns := t.columns ++ columns } := by
  have hdeclare := foldl_declarePart_map (u := t) (fun c => c.print (scopes c)) id
    (fun c _ => Column.Printable.partKind_print c (scopes c))
    (fun c hm => (hc c hm).column?_print (hs c hm) (hf c hm)) (by rwa [List.map_id])
  rwa [List.map_id] at hdeclare

theorem foldl_applyPart (t : Table) (columns : List Column) (scopes : Column → List Text) :
    (columns.map fun c => c.print (scopes c)).foldl applyPart t = t := by
  apply foldl_applyPart_columns
  intro p hp
  obtain ⟨c, -, rfl⟩ := List.mem_map.mp hp
  exact Column.Printable.partKind_print c (scopes c)

theorem print_eq (t : Table) (scope : List Text) (scopes : Column → List Text) :
    t.print scope scopes = "CREATE".toList ++ ' ' :: ("TABLE".toList ++ ' ' ::
      (chain scope t.name ++ ' ' :: '(' ::
        (Text.join [',', ' '] (t.columns.map fun c => c.print (scopes c)) ++ [')']))) := by
  unfold Table.print
  generalize "CREATE".toList = create
  generalize "TABLE".toList = table
  simp

theorem createHead?_print (h : t.Printable) (hs : ∀ q ∈ scope, IsName q) :
    createHead? (t.print scope scopes) = some (t.name,
      Text.join [',', ' '] (t.columns.map fun c => c.print (scopes c)) ++ [')']) := by
  obtain ⟨n, hprint, hname⟩ := exists_chain hs h.name
  have hcreation : t.print scope scopes =
      creation n (t.columns.map fun c => c.print (scopes c)) [] := by
    unfold creation
    rw [print_eq, hprint]
  rw [hcreation, createHead?_creation, hname]
  rfl

/-- The statement that creates a table is read as that table, whatever qualifiers stand before its
name and before the tables that its columns point at. -/
theorem createTable_print (h : t.Printable) (hs : ∀ q ∈ scope, IsName q)
    (hq : ∀ c ∈ t.columns, ∀ q ∈ scopes c, IsName q) :
    createTable (t.print scope scopes) = .ok (some t) := by
  have hparts : ∀ p ∈ t.columns.map fun c => c.print (scopes c),
      Scan.Over (Scan.level 0) p (Scan.level 0) ∧ IsTrim p := by
    intro p hp
    obtain ⟨c, hc, rfl⟩ := List.mem_map.mp hp
    exact ⟨(h.columns c hc).over_print (hq c hc) (by decide), (h.columns c hc).isTrim_print⟩
  have hbody := Scan.body?_join (r := []) fun p hp => (hparts p hp).1
  rw [createTable, createHead?_print h hs]
  simp only [show ({ depth := 1 } : Scan) = Scan.level 1 from rfl, hbody, parts_join hparts]
  have hdeclare := foldl_declarePart (t := { name := t.name }) h.columns h.consistent.column hq
    h.consistent.nodup
  rw [tableOf, hdeclare, foldl_applyPart]
  rfl

/-- A table with a key and a column that points at another table. -/
def track : Table where
  name := "track".toList
  columns := [
    { name := "id".toList, type := "INT(10) UNSIGNED".toList, isPrimary := true
      nullable := false },
    { name := "album".toList, type := "decimal(5,0)".toList, isUnique := true
      defaultValue := some "first".toList, reference := some ⟨"album".toList, "no".toList⟩ }]

theorem createTable_print_track :
    track.Printable ∧
    track.print ["music".toList] (fun _ => ["old".toList, "music".toList]) =
      ("CREATE TABLE `music`.`track` (`id` INT(10) UNSIGNED NOT NULL PRIMARY KEY, " ++
        "`album` decimal(5,0) UNIQUE DEFAULT first " ++
        "REFERENCES `old`.`music`.`album` (`no`))").toList ∧
    createTable (track.print ["music".toList] fun _ => ["old".toList, "music".toList]) =
      .ok (some track) := by
  have hid : IsType "INT(10) UNSIGNED".toList :=
    ⟨[⟨"INT".toList, some ["10".toList]⟩, ⟨"UNSIGNED".toList, none⟩], by decide⟩
  have halbum : IsType "decimal(5,0)".toList :=
    ⟨[⟨"decimal".toList, some ["5".toList, "0".toList]⟩], by decide⟩
  have hprintable : track.Printable := by
    refine ⟨by decide, ?_, by decide, ?_⟩
    · refine List.forall_mem_cons.mpr ⟨⟨by decide, hid, by rintro _ ⟨⟩, by rintro _ ⟨⟩⟩, ?_⟩
      refine List.forall_mem_singleton.mpr ⟨by decide, halbum, ?_, ?_⟩
      · rintro _ ⟨⟩
        exact ⟨by decide, by decide, by decide⟩
      · rintro _ ⟨⟩
        exact ⟨by decide, by decide⟩
    · simp [track, Column.Consistent]
  refine ⟨hprintable, by decide +kernel, ?_⟩
  exact createTable_print hprintable (by decide) (by decide)

end Sql
end SchemaDiagram
