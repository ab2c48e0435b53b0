import Mathlib.Data.List.Forall2
import SchemaDiagram.Engine
import SchemaDiagram.Proofs.Schema.Related
import SchemaDiagram.Proofs.Sql.Lines

/-!
The two readers of scripts give the same table. One searches the text of the statement, the other
one folds over the nodes of its tree, of which there is one for each clause, definition and line.
-/
namespace SchemaDiagram

open Sql Postgres

variable {c d : Column} {t u : Table} {keyed : List Text}

/-- Two columns agree in all that a diagram shows of them but for their defaults; and in whether
they may be null unless their name is one of some names. -/
structure Column.Agrees (keyed : List Text) (c d : Column) : Prop where
  name : c.name = d.name
  type : c.type = d.type
  isPrimary : c.isPrimary = d.isPrimary
  isUnique : c.isUnique = d.isUnique
  isForeign : c.isForeign = d.isForeign
  reference : c.reference = d.reference
  nullable : c.name ∉ keyed → c.nullable = d.nullable

/-- Two tables have the same name, and columns that agree at the same places. -/
structure Table.Agrees (keyed : List Text) (t u : Table) : Prop where
  name : t.name = u.name
  columns : List.Forall₂ (Column.Agrees keyed) t.columns u.columns

theorem Column.steady_agrees (keyed : List Text) : Column.Steady (Column.Agrees keyed) where
  name h := h.name
  markPrimary h := { h with isPrimary := rfl, nullable := fun _ => rfl }
  markUnique h := { h with isUnique := rfl }
  pointAt _ _ h := { h with isForeign := rfl, reference := rfl }

theorem Table.agrees_iff_related : t.Agrees keyed u ↔ t.Related (Column.Agrees keyed) u :=
  ⟨fun h => ⟨h.name, h.columns⟩, fun h => ⟨h.name, h.columns⟩⟩

namespace Sql

/-- The node that the tree has for a clause. -/
inductive Clause.Node : Clause → ColumnConstraint → Prop where
  | notNull : Node .notNull (.nullable false)
  | unique : Node .unique .unique
  | primaryKey : Node .primaryKey .primaryKey
  | default (text : Text) (value : Expression) : Node (.default text) (.defaultValue value)
  | references (t : WrittenTarget) :
    Node (.references t) (.references ⟨t.target.table, t.target.columns⟩)

/-- The node of a definition: its name, a type of any kind, and one node for each clause. -/
inductive Definition.Node (d : Definition) : Element → Prop where
  | column (type : Option TypeName) {constraints : List ColumnConstraint}
    (h : List.Forall₂ Clause.Node d.clauses constraints) :
    d.Node (.column d.name.word type constraints)

/-- The node of a line. -/
def Line.node : Line → TableConstraint
  | primaryKey columns => .primaryKey (columns.map (·.word))
  | unique columns => .unique (columns.map (·.word))
  | foreignKey columns t =>
    .foreignKey (columns.map (·.word)) (some ⟨t.target.table, t.target.columns⟩)

/-- A line and its node do the same to tables that agree. -/
theorem Line.apply_agrees (h : t.Agrees keyed u) (l : Line) :
    (l.apply t).Agrees keyed (applyConstraint u l.node) := by
  have hsteady := Column.steady_agrees keyed
  rw [Table.agrees_iff_related] at h ⊢
  cases l with
  | primaryKey columns => exact h.applyPrimary hsteady _
  | unique columns => exact h.applyUnique hsteady _
  | foreignKey columns target => exact h.applyForeign hsteady rfl rfl

theorem Line.foldl_apply_agrees (h : t.Agrees keyed u) (ls : List Line) :
    (ls.foldl apply t).Agrees keyed ((ls.map node).foldl applyConstraint u) := by
  induction ls generalizing t u with
  | nil => exact h
  | cons l ls ih => exact ih (apply_agrees h l)

/-- What the nodes of some clauses make of a column. The last reference counts. -/
structure Constrained (cs : List Clause) (c d : Column) : Prop where
  name : d.name = c.name
  type : d.type = c.type
  isPrimary : d.isPrimary = (c.isPrimary || cs.any Clause.isPrimaryKey)
  isUnique : d.isUnique = (c.isUnique || cs.any Clause.isUnique)
  isForeign : d.isForeign = (c.isForeign || cs.any (·.reference?.isSome))
  reference : d.reference = (cs.reverse.findSome? Clause.reference?).or c.reference
  nullable : d.nullable = (c.nullable && !cs.any fun x => x.isNotNull || x.isPrimaryKey)

theorem constrained_node {x : Clause} {n : ColumnConstraint} (h : x.Node n) (c : Column) :
    Constrained [x] c (constrain c n) := by
  cases h <;> constructor <;>
    simp [constrain, Column.markPrimary, Column.markUnique, Column.pointAt, Clause.isPrimaryKey,
      Clause.isUnique, Clause.isNotNull, Clause.reference?, WrittenTarget.reference]

theorem Constrained.trans {cs ds : List Clause} {e : Column} (h : Constrained cs c d)
    (h' : Constrained ds d e) : Constrained (cs ++ ds) c e where
  name := h'.name.trans h.name
  type := h'.type.trans h.type
  isPrimary := by rw [h'.isPrimary, h.isPrimary, List.any_append, Bool.or_assoc]
  isUnique := by rw [h'.isUnique, h.isUnique, List.any_append, Bool.or_assoc]
  isForeign := by rw [h'.isForeign, h.isForeign, List.any_append, Bool.or_assoc]
  reference := by
    rw [h'.reference, h.reference, List.reverse_append, List.findSome?_append, Option.or_assoc]
  nullable := by
    rw [h'.nullable, h.nullable, List.any_append, Bool.not_or, Bool.and_assoc]

theorem constrained_foldl {cs : List Clause} {ns : List ColumnConstraint}
    (h : List.Forall₂ Clause.Node cs ns) (c : Column) :
    Constrained cs c (ns.foldl constrain c) := by
  induction h generalizing c with
  | nil => constructor <;> simp
  | cons hx _ ih => exact (constrained_node hx c).trans (ih _)

/-- Of at most one reference the first is the last. -/
theorem findSome?_reverse {α β : Type} {f : α → Option β} {as : List α}
    (h : (as.filterMap f).length ≤ 1) : as.reverse.findSome? f = as.findSome? f := by
  rw [← List.head?_filterMap, ← List.head?_filterMap, List.filterMap_reverse, List.head?_reverse]
  match hm : as.filterMap f with
  | [] => rfl
  | [_] => rfl
  | _ :: _ :: _ => simp [hm] at h

/-- The columns with a clause that makes them the primary key. -/
def keyedNames (ds : List Definition) : List Text :=
  (ds.filter fun d => d.clauses.any Clause.isPrimaryKey).map (·.name.word)

/-- The column of a definition agrees with the column of its node, in whether it may be null unless
a clause makes it the primary key. -/
theorem Definition.column_agrees {d : Definition} {ds : List Definition} {ns : List ColumnConstraint}
    (hd : d ∈ ds) (h : List.Forall₂ Clause.Node d.clauses ns)
    (hone : (d.clauses.filterMap Clause.reference?).length ≤ 1) :
    d.column.Agrees (keyedNames ds) (ns.foldl constrain { name := d.name.word, type := d.type }) := by
  have hnode := constrained_foldl h { name := d.name.word, type := d.type }
  refine ⟨hnode.name.symm, hnode.type.symm, ?_, ?_, ?_, ?_, ?_⟩
  · rw [hnode.isPrimary, Bool.false_or]
    rfl
  · rw [hnode.isUnique, Bool.false_or]
    rfl
  · rw [hnode.isForeign, Option.isSome_none, Bool.false_or, Bool.eq_iff_iff]
    simp only [column, List.findSome?_isSome_iff, List.any_eq_true]
  · rw [hnode.reference, Option.or_none, findSome?_reverse hone]
    rfl
  · intro hname
    have hkeyed : d.clauses.any Clause.isPrimaryKey = false := by
      rw [Bool.eq_false_iff]
      intro hany
      exact hname (List.mem_map_of_mem (List.mem_filter.mpr ⟨hd, hany⟩))
    have hnone : ∀ x ∈ d.clauses, x.isPrimaryKey = false := by simpa using hkeyed
    have hany : (d.clauses.any fun x => x.isNotNull || x.isPrimaryKey) =
        d.clauses.any Clause.isNotNull := by
      rw [Bool.eq_iff_iff, List.any_eq_true, List.any_eq_true]
      refine exists_congr fun x => and_congr_right fun hx => ?_
      rw [hnone x hx, Bool.or_false]
    rw [hnode.nullable, hany, Bool.true_and]
    rfl

end Sql

namespace Table

/-- The types that are declared, by the names of their columns in lower case. -/
def types (t : Table) : List (Text × Text) := t.columns.map fun c => (Text.lower c.name, c.type)

theorem changeColumn_types (t : Table) (change : Column → Column)
    (h : ∀ c, (change c).name = c.name ∧ (change c).type = c.type) (name : Text) :
    (t.changeColumn name change).types = t.types := by
  apply List.ext_getElem?
  intro j
  simp only [types, List.getElem?_map, changeColumn_getElem?]
  split
  · cases t.columns[j]? <;> simp [h]
  · rfl

end Table

namespace Sql

variable {ds : List Definition} {es : List Element} {types : List (Text × Text)}

/-- Columns of different names are looked up by their names. -/
theorem typeOf_definition {d : Definition} (hn : (ds.map fun d => Text.lower d.name.word).Nodup)
    (hd : d ∈ ds) (htype : d.type ≠ unknownType) (type : Option TypeName) :
    typeOf (ds.map fun d => (Text.lower d.name.word, d.type)) d.name.word type = d.type := by
  have hlookup : (ds.map fun d => (Text.lower d.name.word, d.type)).lookup
      (Text.lower d.name.word) = some d.type := by
    obtain ⟨pre, post, rfl⟩ := List.append_of_mem hd
    refine List.lookup_eq_some_iff.mpr ⟨_, _, List.map_append, ?_⟩
    rw [List.map_append, List.map_cons, List.nodup_append] at hn
    intro entry hm
    obtain ⟨e, he, rfl⟩ := List.mem_map.mp hm
    simpa using (hn.2.2 _ (List.mem_map_of_mem he) _ List.mem_cons_self).symm
  unfold typeOf
  rw [hlookup]
  cases type <;> simp [htype]

/-- Nodes of definitions declare columns that agree with the columns of the definitions. -/
theorem foldl_declareColumn {all : List Definition} (hnodes : List.Forall₂ Definition.Node ds es)
    (htypes : ∀ d ∈ ds, ∀ type, typeOf types d.name.word type = d.type)
    (hone : ∀ d ∈ ds, (d.clauses.filterMap Clause.reference?).length ≤ 1) (hall : ds ⊆ all)
    (hn : (t.columns.map (fun c => Text.lower c.name) ++
      ds.map fun d => Text.lower d.name.word).Nodup) :
    ∃ columns, es.foldl (declareColumn types) t = { t with columns := t.columns ++ columns } ∧
      List.Forall₂ (Column.Agrees (keyedNames all)) (ds.map Definition.column) columns := by
  induction hnodes generalizing t with
  | nil => exact ⟨[], by simp, List.Forall₂.nil⟩
  | @cons d e ds es hnode _ ih =>
    obtain ⟨htype, htypes⟩ := List.forall_mem_cons.mp htypes
    obtain ⟨hreference, hone⟩ := List.forall_mem_cons.mp hone
    obtain ⟨hmem, hall⟩ := List.cons_subset.mp hall
    cases hnode with
    | @column type ns hclauses =>
      have hagrees := d.column_agrees hmem hclauses hreference
      have hname := (constrained_foldl hclauses { name := d.name.word, type := d.type }).name
      generalize hc : ns.foldl constrain { name := d.name.word, type := d.type } = c at hagrees hname
      have hnew : t.column? c.name = none := by
        rw [List.map_cons, List.nodup_append] at hn
        rw [hname, Table.column?, List.find?_eq_none]
        intro d hd he
        exact hn.2.2 _ (List.mem_map_of_mem hd) _ List.mem_cons_self (by simpa [sameName] using he)
      have hdeclare : declareColumn types t (.column d.name.word type ns) =
          { t with columns := t.columns ++ [c] } := by
        rw [declareColumn, htype, hc, Table.declare, hnew]
        rfl
      have hrest : (({ t with columns := t.columns ++ [c] } : Table).columns.map
          (fun c => Text.lower c.name) ++ ds.map fun d => Text.lower d.name.word).Nodup := by
        simpa [hname] using hn
      obtain ⟨columns, hfold, hcolumns⟩ := ih htypes hone hall hrest
      refine ⟨c :: columns, ?_, List.Forall₂.cons hagrees hcolumns⟩
      rw [List.foldl_cons, hdeclare, hfold, List.append_assoc]
      rfl

namespace WrittenTable

variable {w : WrittenTable}

/-- The elements of the tree: some nodes for the definitions, and those of the lines. -/
def elements (w : WrittenTable) (columns : List Element) : List Element :=
  columns ++ w.lines.map fun l => .constraint l.node

/-- No line changes the name of the table. -/
theorem name_table (w : WrittenTable) : w.table.name = w.name.name.word :=
  Line.foldl_apply_keeps (P := fun t => t.name = w.name.name.word)
    (fun _ _ _ _ ht => Table.changeColumn_name.trans ht) w.lines rfl

/-- No line changes what type a column is declared with. -/
theorem types_table (w : WrittenTable) :
    w.table.types = w.definitions.map fun d => (Text.lower d.name.word, d.type) := by
  refine Line.foldl_apply_keeps (P := fun t => t.types = _)
    (fun t change name hc ht => (t.changeColumn_types change hc name).trans ht) w.lines ?_
  rw [Table.types, List.map_map]
  rfl

/-- The spellings of the types are found by the name of the table. -/
theorem typesOf_add (w : WrittenTable) :
    (TypeIndex.add [] w.table).typesOf w.name.name.word =
      w.definitions.map fun d => (Text.lower d.name.word, d.type) := by
  rw [← types_table, ← name_table]
  simp [TypeIndex.add, TypeIndex.typesOf, Table.types]

theorem foldl_declareColumn_lines (types : List (Text × Text)) (ls : List Line) (t : Table) :
    (ls.map fun l => Element.constraint l.node).foldl (declareColumn types) t = t := by
  induction ls with
  | nil => rfl
  | cons l ls ih => exact ih

/-- The constraints over columns stand in the nodes of the lines alone. -/
theorem flatMap_constraints {columns : List Element}
    (hnodes : List.Forall₂ Definition.Node w.definitions columns) :
    (w.elements columns).flatMap Element.constraints = w.lines.map Line.node := by
  have hcolumns : columns.flatMap Element.constraints = [] := by
    generalize w.definitions = ds at hnodes
    induction hnodes with
    | nil => rfl
    | cons hnode _ ih =>
      cases hnode
      exact ih
  rw [elements, List.flatMap_append, hcolumns, List.nil_append, List.flatMap_map]
  exact List.flatMap_pure_eq_map _ _

/-- The table of the tree agrees with the table of the text. -/
theorem Valid.tableOf_agrees {columns : List Element} {index : TypeIndex} (hw : w.Valid)
    (htypes : index.typesOf w.name.name.word =
      w.definitions.map fun d => (Text.lower d.name.word, d.type))
    (hknown : ∀ d ∈ w.definitions, d.type ≠ unknownType)
    (hone : ∀ d ∈ w.definitions, (d.clauses.filterMap Clause.reference?).length ≤ 1)
    (hnodes : List.Forall₂ Definition.Node w.definitions columns) :
    w.table.Agrees (keyedNames w.definitions)
      (Postgres.tableOf index w.name.name.word (w.elements columns)) := by
  obtain ⟨cs, hdeclare, hcs⟩ := foldl_declareColumn (t := ⟨w.name.name.word, []⟩) hnodes
    (fun d hd => typeOf_definition hw.nodup hd (hknown d hd)) hone (List.Subset.refl _) hw.nodup
  have hcolumns : (w.elements columns).foldl (declareColumn (index.typesOf w.name.name.word))
      ⟨w.name.name.word, []⟩ = ⟨w.name.name.word, cs⟩ := by
    rw [htypes, elements, List.foldl_append, foldl_declareColumn_lines, hdeclare]
    rfl
  have hbase : Table.Agrees (keyedNames w.definitions)
      ⟨w.name.name.word, w.definitions.map Definition.column⟩ ⟨w.name.name.word, cs⟩ := ⟨rfl, hcs⟩
  simp only [Postgres.tableOf, hcolumns, flatMap_constraints hnodes]
  exact Line.foldl_apply_agrees hbase w.lines

end WrittenTable
end Sql

variable {readers : Readers} {script rest : Text} {w : WrittenTable} {columns : List Element}

/-- Of a statement that creates a table, with clauses and lines in any order and number but no
column with two references, both engines read one table, and these agree. -/
theorem Engine.read_agrees (hw : w.Valid) (hknown : ∀ d ∈ w.definitions, d.type ≠ unknownType)
    (hone : ∀ d ∈ w.definitions, (d.clauses.filterMap Clause.reference?).length ≤ 1)
    (hsplit : readers.splitter.outlines script = .ok [⟨.create, w.print rest⟩])
    (hparse : readers.parse? script =
      some [.createTable w.name.name.word (w.elements columns)])
    (hnodes : List.Forall₂ Definition.Node w.definitions columns) :
    ∃ t u, Engine.scanner.read script readers = .ok { tables := [t] } ∧
      Engine.postgres.read script readers = .ok { tables := [u] } ∧
      t.Agrees (keyedNames w.definitions) u := by
  have hcreate := hw.createTable_eq rest
  refine ⟨w.table, Postgres.tableOf (TypeIndex.add [] w.table) w.name.name.word
    (w.elements columns), ?_, ?_, hw.tableOf_agrees w.typesOf_add hknown hone hnodes⟩
  · rw [Engine.read_of_outlines hsplit]
    simp only [List.foldlM_cons, List.foldlM_nil, Sql.declareStatement, hcreate]
    rfl
  · rw [Engine.read_of_parse hparse, declaredTypes_of_outlines hsplit]
    simp only [List.filterMap_cons, List.filterMap_nil, readableTable?, hcreate]
    rfl

/-- A table with clauses and lines of all kinds but for defaults. -/
def Sql.WrittenTable.ofDisc : WrittenTable where
  name := ⟨[], ⟨.doubleQuotes, "disc".toList, by decide, by decide⟩⟩
  definitions := [
    ⟨⟨.doubleQuotes, "id".toList, by decide, by decide⟩, "integer".toList,
      [.primaryKey, .notNull]⟩,
    ⟨⟨.doubleQuotes, "title".toList, by decide, by decide⟩, "varchar(40)".toList,
      [.references ⟨⟨[], ⟨.doubleQuotes, "title".toList, by decide, by decide⟩⟩, none⟩, .unique]⟩]
  lines := [
    .foreignKey [⟨.doubleQuotes, "ID".toList, by decide, by decide⟩]
      ⟨⟨[], ⟨.doubleQuotes, "maker".toList, by decide, by decide⟩⟩,
        some [⟨.doubleQuotes, "code".toList, by decide, by decide⟩]⟩,
    .unique [⟨.doubleQuotes, "id".toList, by decide, by decide⟩]]

/-- The tokens of the statement that creates it. -/
def Sql.WrittenTable.discTokens : List Token :=
  [(.word, "CREATE"), (.word, "TABLE"), (.quotedName, "disc"), (.sign, "("),
    (.quotedName, "id"), (.word, "integer"), (.word, "PRIMARY"), (.word, "KEY"), (.word, "NOT"),
    (.word, "NULL"), (.sign, ","),
    (.quotedName, "title"), (.word, "varchar"), (.sign, "("), (.number, "40"), (.sign, ")"),
    (.word, "REFERENCES"), (.quotedName, "title"), (.word, "UNIQUE"), (.sign, ","),
    (.word, "FOREIGN"), (.word, "KEY"), (.sign, "("), (.quotedName, "ID"), (.sign, ")"),
    (.word, "REFERENCES"), (.quotedName, "maker"), (.sign, "("), (.quotedName, "code"), (.sign, ")"),
    (.sign, ","),
    (.word, "UNIQUE"), (.sign, "("), (.quotedName, "id"), (.sign, ")"), (.sign, ")")].map
      fun (kind, text) => { kind, text := String.toList text }

theorem Engine.read_agrees_disc :
    WrittenTable.ofDisc.print [] =
      ("CREATE TABLE \"disc\" (\"id\" integer PRIMARY KEY NOT NULL, " ++
        "\"title\" varchar(40) REFERENCES \"title\" UNIQUE, " ++
        "FOREIGN KEY (\"ID\") REFERENCES \"maker\" (\"code\"), UNIQUE (\"id\"))").toList ∧
    ∃ t u, Engine.scanner.read (WrittenTable.ofDisc.print []) = .ok { tables := [t] } ∧
      Engine.postgres.read (WrittenTable.ofDisc.print []) = .ok { tables := [u] } ∧
      t.Agrees ["id".toList] u := by
  have hinteger : IsType "integer".toList := ⟨[⟨"integer".toList, none⟩], by decide⟩
  have hvarchar : IsType "varchar(40)".toList :=
    ⟨[⟨"varchar".toList, some ["40".toList]⟩], by decide⟩
  have hvalid : WrittenTable.ofDisc.Valid := by
    refine ⟨List.forall_mem_cons.mpr ⟨⟨by decide, hinteger, ?_⟩, List.forall_mem_singleton.mpr
      ⟨by decide, hvarchar, ?_⟩⟩, ?_, by decide⟩
    · exact List.forall_mem_cons.mpr ⟨⟨by rintro _ ⟨⟩, by decide⟩,
        List.forall_mem_singleton.mpr ⟨by rintro _ ⟨⟩, by decide⟩⟩
    · exact List.forall_mem_cons.mpr ⟨⟨by rintro _ ⟨⟩, by decide⟩,
        List.forall_mem_singleton.mpr ⟨by rintro _ ⟨⟩, by decide⟩⟩
    · refine List.forall_mem_cons.mpr ⟨?_, List.forall_mem_singleton.mpr (by rintro _ _ ⟨⟩)⟩
      rintro _ _ ⟨⟩
      decide
  have hsplit : ({} : Splitter).outlines (WrittenTable.ofDisc.print []) =
      .ok [⟨.create, WrittenTable.ofDisc.print []⟩] := eq_ok_of_toOption (by decide +kernel)
  have htokens : Token.all? (WrittenTable.ofDisc.print []) = some WrittenTable.discTokens := by
    decide +kernel
  have hcut : Token.statements WrittenTable.discTokens = [WrittenTable.discTokens] := by
    decide +kernel
  have hparse : statements? (WrittenTable.ofDisc.print []) =
      some [.createTable "disc".toList (WrittenTable.ofDisc.elements [
        .column "id".toList (some { base := "INT".toList }) [.primaryKey, .nullable false],
        .column "title".toList (some { base := "VARCHAR".toList, arguments := ["40".toList] })
          [.references ⟨"title".toList, []⟩, .unique]])] := by
    rw [statements?, htokens, Option.bind_eq_bind, Option.bind_some, hcut]
    rfl
  have hnodes : List.Forall₂ Definition.Node WrittenTable.ofDisc.definitions [
      .column "id".toList (some { base := "INT".toList }) [.primaryKey, .nullable false],
      .column "title".toList (some { base := "VARCHAR".toList, arguments := ["40".toList] })
        [.references ⟨"title".toList, []⟩, .unique]] := by
    refine .cons (.column _ ?_) (.cons (.column _ ?_) .nil)
    · exact .cons .primaryKey (.cons .notNull .nil)
    · exact .cons (.references _) (.cons .unique .nil)
  exact ⟨by decide +kernel,
    Engine.read_agrees hvalid (by decide) (by decide) hsplit hparse hnodes⟩

end SchemaDiagram
