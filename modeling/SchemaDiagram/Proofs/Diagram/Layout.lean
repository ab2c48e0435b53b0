import SchemaDiagram.Proofs.Diagram.Contents
import SchemaDiagram.Proofs.Postgres.Remarks.Pieces
import SchemaDiagram.Proofs.Postgres.Types
import SchemaDiagram.Proofs.Schema.Consistency
import SchemaDiagram.Proofs.Schema.Growth

/-!
The layout of a diagram: how many lines it has, and how many words the line of a column. Blanks in
types leave a diagram as it is laid out, and those in names do not.
-/
namespace SchemaDiagram

variable {s after : Schema} {t u : Table} {c d : Column} {found : Declarations} {script : Text}

/-- The type of every column has letters. -/
def Table.HasTypes (t : Table) : Prop := ∀ c ∈ t.columns, c.type ≠ []

theorem Table.hasTypes_of_typed (ht : t.HasTypes) (h : u.typed = t.typed) : u.HasTypes := by
  intro c hc
  have hmem : (c.name, c.type) ∈ t.typed.2 := h ▸ List.mem_map_of_mem hc
  obtain ⟨d, hd, hdc⟩ := List.mem_map.mp hmem
  exact (Prod.mk.inj hdc).2 ▸ ht d hd

theorem Table.HasTypes.grows (ht : t.HasTypes) (h : t.Grows u) : u.HasTypes := by
  intro d hd
  obtain ⟨i, hi, rfl⟩ := List.getElem_of_mem hd
  have hc : i < t.columns.length := h.columns.length_eq ▸ hi
  have htype : u.columns[i].type = t.columns[i].type := (h.columns.get hc hi).type
  rw [htype]
  exact ht _ (List.getElem_mem hc)

namespace Sql

theorem spelling_ne_nil (definition : Text × Text) : spelling definition ≠ [] := by
  unfold spelling
  dsimp only
  split
  · decide
  · next h => simpa using h

theorem hasTypes_declarePart (ht : t.HasTypes) (part : Text) : (declarePart t part).HasTypes := by
  unfold declarePart
  split
  · next c _ hc =>
    have hcolumn := column?_name_type part
    rw [hc] at hcolumn
    obtain ⟨definition, -, hd⟩ := Option.map_eq_some_iff.mp hcolumn.symm
    intro d hmem
    unfold Table.declare at hmem
    split at hmem
    · exact ht d hmem
    · rcases List.mem_append.mp hmem with hmem | hmem
      · exact ht d hmem
      · rw [List.mem_singleton.mp hmem, ← (Prod.mk.inj hd).2]
        exact spelling_ne_nil definition
  · exact ht

theorem hasTypes_tableOf (name : Text) (parts : List Text) : (tableOf name parts).HasTypes := by
  have hdeclared : (parts.foldl declarePart { name }).HasTypes :=
    List.foldlRecOn parts _ (fun _ h => absurd h (by simp)) fun _ ht part _ => hasTypes_declarePart ht part
  exact List.foldlRecOn parts applyPart hdeclared
    fun u hu part _ => Table.hasTypes_of_typed hu (typed_applyPart u part)

theorem hasTypes_createTable {statement : Text} (h : createTable statement = .ok (some t)) :
    t.HasTypes := by
  unfold createTable at h
  split at h
  · cases h
  · split at h
    · cases h
    · cases h
      exact hasTypes_tableOf _ _

theorem hasTypes_readableTable? {o : Outline} (h : readableTable? o = some t) : t.HasTypes := by
  unfold readableTable? at h
  split at h
  · next hcreate =>
    subst h
    exact hasTypes_createTable hcreate
  · cases h

theorem hasTypes_declarations {splitter : Splitter}
    (h : declarations script splitter = .ok found) : ∀ t ∈ found.tables, t.HasTypes := by
  intro t ht
  obtain ⟨statement, hcreate⟩ := created_of_declarations h ht
  exact hasTypes_createTable hcreate

/-- No spelling that a script declares is empty. -/
theorem letters_declaredTypes {splitter : Splitter} {index : TypeIndex}
    (h : declaredTypes script splitter = .ok index) (name : Text) :
    ∀ entry ∈ index.typesOf name, entry.2 ≠ [] := by
  cases ho : splitter.outlines script with
  | error fault => cases h.symm.trans (declaredTypes_of_error ho)
  | ok outlines =>
    cases h.symm.trans (declaredTypes_of_outlines ho)
    rw [typesOf_foldl_add]
    intro entry hentry
    cases ht : (outlines.filterMap readableTable?).find? (sameName ·.name name) with
    | none => simp [ht] at hentry
    | some t =>
      obtain ⟨o, -, ho⟩ := List.mem_filterMap.mp (List.mem_of_find?_eq_some ht)
      rw [ht] at hentry
      obtain ⟨c, hc, rfl⟩ := List.mem_map.mp hentry
      exact hasTypes_readableTable? ho c hc

end Sql

namespace Postgres

theorem TypeName.Alike.render_ne_nil {type : TypeName} (h : type.Alike id type) : type.render ≠ [] := by
  simp [TypeName.render, h.letters]

/-- The types that a statement gives columns. -/
def Statement.types : Statement → List TypeName
  | .createTable _ elements => (elements.filterMap Element.column?).filterMap (·.2)
  | .alterTable _ _ | .other => []

theorem typeOf_ne_nil {types : List (Text × Text)} {type : Option TypeName} (name : Text)
    (htypes : ∀ entry ∈ types, entry.2 ≠ []) (htype : ∀ given ∈ type, given.render ≠ []) :
    typeOf types name type ≠ [] := by
  unfold typeOf
  split
  · next spelling given hs =>
    split
    · exact htype given rfl
    · exact htypes _ (Text.mem_of_lookup hs)
  · next hs => exact htypes _ (Text.mem_of_lookup hs)
  · exact htype _ rfl
  · decide

/-- The types of a script that is read in the grammar are printed with letters. -/
theorem letters_types {ss : List Statement} (hss : statements? script = some ss) :
    ∀ s ∈ ss, ∀ type ∈ s.types, type.render ≠ [] := by
  intro statement hmem type htype
  have hstatement := List.forall₂_same.mp (alike_statements? hss) statement hmem
  cases hstatement with
  | createTable _ hes =>
    obtain ⟨column, hcolumn, hgiven⟩ := List.mem_filterMap.mp htype
    obtain ⟨e, he, hecolumn⟩ := List.mem_filterMap.mp hcolumn
    have halike := List.forall₂_same.mp hes e he
    cases halike with
    | column _ hletters _ =>
      cases hecolumn
      cases hgiven
      cases hletters with
      | some hletters => exact hletters.render_ne_nil
    | constraint | named => cases hecolumn
  | alterTable | other => cases htype

theorem hasTypes_declarations {splitter : Sql.Splitter} {parse? : Text → Option (List Statement)}
    {breaksOff? : Text → Option Text}
    (hletters : ∀ ss, parse? script = some ss → ∀ s ∈ ss, ∀ type ∈ s.types, type.render ≠ [])
    (h : declarations script splitter parse? breaksOff? = .ok found) :
    ∀ t ∈ found.tables, t.HasTypes := by
  obtain ⟨ss, index, hss, hi, rfl⟩ := declarations_eq_ok h
  rw [tables_declarationsOf]
  intro t ht c hc
  obtain ⟨⟨name, es⟩, hs, rfl⟩ := List.mem_map.mp ht
  obtain ⟨statement, hmem, hcreates⟩ := List.mem_filterMap.mp hs
  obtain ⟨type, hfind, htype⟩ := mem_tableOf hc
  rw [htype]
  refine typeOf_ne_nil c.name (Sql.letters_declaredTypes hi name) fun given hgiven => ?_
  refine hletters ss hss statement hmem given ?_
  cases statement with
  | createTable _ _ =>
    cases hcreates
    exact List.mem_filterMap.mpr ⟨_, List.mem_of_find?_eq_some hfind, hgiven⟩
  | alterTable | other => cases hcreates

end Postgres

/-- The types that a script gives its columns are printed with letters, if its grammar is read. -/
def Readers.PrintTypes (readers : Readers) (script : Text) : Prop :=
  ∀ ss, readers.parse? script = some ss → ∀ s ∈ ss, ∀ type ∈ s.types, type.render ≠ []

theorem Readers.printTypes (script : Text) : ({} : Readers).PrintTypes script :=
  fun _ => Postgres.letters_types

theorem Engine.read_hasTypes {engine : Engine} {readers : Readers} (hprint : readers.PrintTypes script)
    (h : engine.read script readers = .ok found) : ∀ t ∈ found.tables, t.HasTypes := by
  cases engine with
  | postgres => exact Postgres.hasTypes_declarations hprint h
  | scanner => exact Sql.hasTypes_declarations h
  | idle => cases h

namespace Schema

variable {readers : Readers} {scripts : List Text}

/-- What holds of no table, and goes on to hold as scripts are read, holds of every schema. -/
theorem ofScripts_induction {P : Schema → Prop} (hnil : P [])
    (hextend : ∀ script ∈ scripts, ∀ s engine found recovered, P s →
      Engine.read engine script readers = .ok found → P (s.extend found recovered))
    (h : ofScripts scripts readers = .ok s) : P s := by
  have hall : ∀ {before : Schema}, P before → before.addAll scripts readers = .ok s → P s := by
    clear h
    induction scripts with
    | nil =>
      intro before hbefore h
      cases h
      exact hbefore
    | cons script scripts ih =>
      intro before hbefore h
      rw [addAll_cons] at h
      obtain ⟨hfirst, hrest⟩ := List.forall_mem_cons.mp hextend
      obtain ⟨answer, after, hrun⟩ : ∃ answer after,
        (Building.addScript Engine.all script readers).run before = (answer, after) := ⟨_, _, rfl⟩
      simp only [addScript, hrun] at h
      rcases Building.addScript_cases hrun with
        ⟨_, rfl, _⟩ | ⟨_, rfl, rfl⟩ | ⟨engine, found, recovered, _, hread, _, rfl, rfl⟩
      · cases h
      · exact ih hrest hbefore h
      · exact ih hrest (hfirst _ _ _ _ hbefore hread) h
  exact hall hnil h

/-- In every schema that scripts build up, all columns have a type. -/
theorem hasTypes_ofScripts (hprint : ∀ script ∈ scripts, readers.PrintTypes script)
    (h : ofScripts scripts readers = .ok s) : ∀ t ∈ s, t.HasTypes := by
  refine ofScripts_induction (P := fun s => ∀ t ∈ s, t.HasTypes) (by simp) ?_ h
  intro script hscript s engine found recovered hs hread u hu
  have hfound := Engine.read_hasTypes (hprint script hscript) hread
  obtain ⟨i, hi, rfl⟩ := List.getElem_of_mem hu
  have hgrows := grows_extend s found recovered
  have ht : i < (s ++ found.tables).length := hgrows.length_eq ▸ hi
  refine Table.HasTypes.grows ?_ (hgrows.get ht hi)
  exact List.forall_mem_append.mpr ⟨hs, hfound⟩ _ (List.getElem_mem ht)

theorem consistent_ofScripts (h : ofScripts scripts readers = .ok s) : s.Consistent :=
  ofScripts_induction (by simp [Consistent])
    (fun _ _ _ _ _ recovered hs hread =>
      extend_consistent recovered hs (Engine.read_consistent hread)) h

end Schema

namespace Diagram

/-- The mark of a column, if it has one. -/
def marks (c : Column) : List Text :=
  if c.isPrimary then ["PK".toList] else if c.isForeign then ["FK".toList] else []

theorem words_append_badge (t : Text) (c : Column) : Text.words (t ++ badge c) =
    Text.words t ++ marks c := by
  unfold badge marks
  split
  · exact Text.words_append rfl t "PK".toList
  · split
    · exact Text.words_append rfl t "FK".toList
    · simp

theorem lowLines_ne_nil {t : Text} (h : t ≠ []) : lowLines false t ≠ [] := by
  obtain ⟨c, t, rfl⟩ := List.exists_cons_of_ne_nil h
  unfold lowLines
  split <;> simp

/-- The line of a column: its type in one word, the words of its name, and its mark. -/
theorem words_columnLine (h : c.type ≠ []) : Text.words (columnLine c) =
    lowLines false (Text.upper c.type) :: (Text.words c.name ++ marks c) := by
  have hline : columnLine c = ' ' :: ' ' :: ' ' :: ' ' ::
      (lowLines false (Text.upper c.type) ++ ' ' :: (c.name ++ badge c)) := by
    simp [columnLine]
  have htype := Text.words_of_blankless (lowLines_ne_nil (Text.upper_ne_nil h))
    (blankless_lowLines false (Text.upper c.type))
  rw [hline, Text.words_cons rfl, Text.words_cons rfl, Text.words_cons rfl, Text.words_cons rfl,
    Text.words_append rfl, htype, words_append_badge, List.singleton_append]

/-- The line feeds in the names that the block of a table shows. -/
def blockFeeds (t : Table) : Nat :=
  t.name.count '\n' + (t.columns.map fun c => c.name.count '\n').sum

/-- The line feeds in the names that the line of a link shows. -/
def linkFeeds (l : Link) : Nat :=
  l.parent.count '\n' + l.child.count '\n'
    + (label (l.childColumn ++ ['→'] ++ l.parentColumn)).count '\n'

/-- The line feeds in the names that a diagram shows. -/
def feeds (ts : List Table) : Nat :=
  ((firsts [] ts).map blockFeeds).sum + ((ts.flatMap Table.links).map linkFeeds).sum

theorem count_columnLine (c : Column) : (columnLine c).count '\n' = c.name.count '\n' := by
  have htype : (lowLines false (Text.upper c.type)).count '\n' = 0 :=
    List.count_eq_zero_of_not_mem ((blankless_lowLines _ _).not_mem rfl)
  have hbadges : ∀ t ∈ [[], " PK".toList, " FK".toList], t.count '\n' = 0 := by decide
  simp [columnLine, htype, hbadges _ (badge_mem c)]

theorem sum_count_block (t : Table) : ((block t).map (·.count '\n')).sum = blockFeeds t := by
  have hname : (entityName t.name).count '\n' = t.name.count '\n' := Text.count_upper rfl t.name
  simp [block, blockFeeds, Function.comp_def, count_columnLine, hname]

theorem count_statedLine {stated : Text} {a : Relation} (h : a ∈ Relation.ofText stated) :
    (statedLine a).count '\n' = 0 := by
  rw [statedLine_eq]
  exact List.count_eq_zero_of_not_mem (Arc.not_mem_line (legible_ofRelation (Relation.ofText_inWords h)))

theorem count_linkLine (l : Link) : (linkLine l).count '\n' = linkFeeds l := by
  have harrow : ∀ a : Arrow, a.text.count '\n' = 0 := fun a => by cases a <;> decide
  have hupper : ∀ t : Text, (Text.upper t).count '\n' = t.count '\n' := Text.count_upper rfl
  simp [linkLine, relationLine, linkFeeds, hupper, harrow]
  omega

theorem sum_map_flatMap {α β : Type} (f : β → Nat) (g : α → List β) (as : List α) :
    ((as.flatMap g).map f).sum = (as.map fun a => ((g a).map f).sum).sum := by
  induction as with
  | nil => rfl
  | cons a as ih => simp [ih]

/-- Only the names in a diagram bring line feeds into its lines. -/
theorem sum_count_lines {ts : List Table} (hne : ts ≠ []) (stated : Text) :
    ((lines ts (Relation.ofText stated)).map (·.count '\n')).sum = feeds ts := by
  have hstated : ((Relation.ofText stated).map fun a => (statedLine a).count '\n').sum = 0 := by
    rw [List.map_congr_left fun a ha => count_statedLine ha]
    simp
  have hheader : "erDiagram".toList.count '\n' = 0 := by decide
  simp only [lines, List.isEmpty_iff, hne, if_false, List.map_cons, List.map_append, List.sum_cons,
    List.sum_append, sum_map_flatMap, sum_count_block, List.map_map, Function.comp_def, hstated,
    count_linkLine, hheader, feeds, Nat.zero_add, Nat.add_zero]

theorem length_links {t : Table} (ht : t.Consistent) :
    t.links.length = t.columns.countP (·.isForeign) := by
  have hreference : ∀ c ∈ t.columns.filter (·.isForeign), (c.reference.isSome) = true := by
    intro c hc
    obtain ⟨hc, hforeign⟩ := List.mem_filter.mp hc
    obtain ⟨r, hr⟩ := (ht.column c hc).mp hforeign
    simp [hr]
  rw [Table.links, List.length_filterMap_eq_countP, List.countP_eq_length_filter (l := t.columns),
    List.countP_eq_length]
  simpa using hreference

theorem length_flatMap_links {ts : List Table} (h : ∀ t ∈ ts, t.Consistent) :
    (ts.flatMap Table.links).length = (ts.flatMap (·.columns)).countP (·.isForeign) := by
  induction ts with
  | nil => rfl
  | cons t ts ih =>
    obtain ⟨ht, hts⟩ := List.forall_mem_cons.mp h
    rw [List.flatMap_cons, List.flatMap_cons, List.length_append, List.countP_append,
      length_links ht, ih hts]

theorem length_lines {ts : List Table} (hne : ts ≠ []) (relations : List Relation) :
    (lines ts relations).length = 1 + ((firsts [] ts).map fun t => 2 + t.columns.length).sum
      + relations.length + (ts.flatMap Table.links).length := by
  have hblock : ∀ t : Table, (block t).length = 2 + t.columns.length := fun t => by
    simp [block]
    omega
  simp [lines, hne, List.length_flatMap, hblock]
  omega

/-- A diagram has a line for its head, two and one for each column for an entity, and one for each
stated relation and foreign key column; nothing but line feeds in names makes it longer. The line of
a column has one word for the type, the words of the name and one for the mark, if there is one. -/
theorem ofTexts_layout {readers : Readers} {scripts : List Text} {stated : Option Text} {m : Model}
    (hprint : ∀ script ∈ scripts, readers.PrintTypes script)
    (h : Model.ofTexts scripts stated readers = .ok m) (hne : m.tables ≠ []) :
    (Text.splitAt '\n' m.diagram).length =
        1 + ((firsts [] m.tables).map fun t => 2 + t.columns.length).sum + m.relations.length
          + (m.tables.flatMap (·.columns)).countP (·.isForeign) + feeds m.tables ∧
      (feeds m.tables = 0 → Text.splitAt '\n' m.diagram = lines m.tables m.relations) ∧
      ∀ t ∈ m.tables, ∀ c ∈ t.columns, Text.words (columnLine c) =
        lowLines false (Text.upper c.type) :: (Text.words c.name ++ marks c) := by
  unfold Model.ofTexts at h
  cases hs : Schema.ofScripts scripts readers with
  | error fault =>
    rw [hs] at h
    cases h
  | ok tables =>
    rw [hs] at h
    cases h
    have hrelations : (stated.map Relation.ofText).getD [] = Relation.ofText (stated.getD []) := by
      cases stated <;> rfl
    have hlines : lines tables (Relation.ofText (stated.getD [])) ≠ [] := by
      simp [lines_eq hne]
    have hsum := sum_count_lines hne (stated.getD [])
    rw [Model.diagram, render]
    dsimp only at hne ⊢
    rw [hrelations]
    refine ⟨?_, fun hfeeds => ?_, fun t ht c hc => ?_⟩
    · rw [Text.length_splitAt_join _ hlines, hsum, length_lines hne,
        length_flatMap_links (Schema.consistent_ofScripts hs)]
    · refine Text.splitAt_join_lines hlines fun line hline hmem => ?_
      have hnone := (List.sum_eq_zero_iff.mp (hsum.trans hfeeds)) _ (List.mem_map_of_mem hline)
      exact absurd hmem (List.count_eq_zero.mp hnone)
    · exact words_columnLine (Schema.hasTypes_ofScripts hprint hs t ht c hc)

/-- Two entities with three columns in all, a stated relation and a foreign key make ten lines. -/
theorem ofTexts_layout_linked :
    let script : Text := ("CREATE TABLE a (id integer PRIMARY KEY);\n" ++
      "CREATE TABLE b (a_id integer REFERENCES a (id), \"the note\" text);").toList
    let stated : Text := "Ref again: b.a_id > a.id // one".toList
    let note : Column := { name := "the note".toList, type := "text".toList }
    ∃ m, Model.ofTexts [script] (some stated) = .ok m ∧ m.tables ≠ [] ∧
      (Text.splitAt '\n' m.diagram).length = 10 ∧ (∃ t ∈ m.tables, note ∈ t.columns) ∧
      Text.words (columnLine note) = ["TEXT".toList, "the".toList, "note".toList] := by
  intro script stated note
  let a : Table := ⟨"a".toList, [
    { name := "id".toList, type := "integer".toList, isPrimary := true, nullable := false }]⟩
  let b : Table := ⟨"b".toList, [
    { name := "a_id".toList, type := "integer".toList, reference := some ⟨"a".toList, "id".toList⟩ },
    note]⟩
  have hs : Schema.ofScripts [script] = .ok [a, b] := eq_ok_of_toOption (by decide +kernel)
  have hm : Model.ofTexts [script] (some stated) = .ok ⟨[a, b], Relation.ofText stated⟩ := by
    unfold Model.ofTexts
    rw [hs]
    rfl
  have hb : b ∈ [a, b] := by simp
  have hnote : note ∈ b.columns := by simp [b]
  obtain ⟨hlength, -, hwords⟩ :=
    ofTexts_layout (fun script _ => Readers.printTypes script) hm (by simp)
  exact ⟨_, hm, by simp, hlength.trans (by decide +kernel), ⟨b, hb, hnote⟩,
    (hwords b hb note hnote).trans (by decide +kernel)⟩

/-- A blank in a name makes a third word in the line of a column without a mark, and a line feed in
a name a line of its own. -/
theorem ofTexts_torn :
    ∃ scripts stated m, Model.ofTexts scripts stated = .ok m ∧ m.tables ≠ [] ∧
      (Text.splitAt '\n' m.diagram).length ≠
        1 + ((firsts [] m.tables).map fun t => 2 + t.columns.length).sum + m.relations.length
          + (m.tables.flatMap (·.columns)).countP (·.isForeign) ∧
      ∃ t ∈ firsts [] m.tables, ∃ c ∈ t.columns, marks c = [] ∧
        (Text.words (columnLine c)).length ≠ 2 := by
  let script : Text := "CREATE TABLE t (\"a b\" integer, \"c\nd\" text)".toList
  let t : Table := ⟨"t".toList, [
    { name := "a b".toList, type := "integer".toList },
    { name := "c\nd".toList, type := "text".toList }]⟩
  have hs : Schema.ofScripts [script] = .ok [t] := eq_ok_of_toOption (by decide +kernel)
  have hm : Model.ofTexts [script] none = .ok ⟨[t], []⟩ := by
    unfold Model.ofTexts
    rw [hs]
    rfl
  exact ⟨_, _, _, hm, by simp, by decide +kernel, t, by decide +kernel, _, List.mem_cons_self,
    by decide +kernel⟩

end Diagram
end SchemaDiagram
