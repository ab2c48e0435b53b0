import SchemaDiagram.Proofs.Sql.Clauses

/-!
The body of a table: its parts, of which some are definitions of columns and some are constraints
over columns on lines of their own, and what the statement around them creates.
-/
namespace SchemaDiagram.Sql

variable {r : Text} {t : Table}

/-- The first list of a text stands behind words without a parenthesis. -/
theorem firstList_behind {w : Text} (hw : '(' ∉ w) (t : Text) :
    firstList (w ++ '(' :: t) = firstList ('(' :: t) := by
  induction w with
  | nil => rfl
  | cons c w ih =>
    obtain ⟨hc, hw⟩ := not_or.mp (mt List.mem_cons.mpr hw)
    have hnone : parenthesised? (c :: (w ++ '(' :: t)) = none := by
      unfold parenthesised?
      split
      · next heq => exact (hc (List.cons.inj heq).1.symm).elim
      · rfl
    rw [firstList, List.cons_append, search_cons hnone]
    exact ih hw

theorem firstList_of_not_mem {list : Text} (hne : list ≠ []) (h : ')' ∉ list) :
    firstList ('(' :: (list ++ [')'])) = listedNames list := by
  have hread := parenthesised?_of_not_mem hne h []
  rw [firstList, search_eq_read (Option.isSome_of_mem hread), hread]

/-- A constraint over columns that stands in the body on a line of its own. -/
inductive Line where
  | primaryKey (columns : List QuotedName)
  | unique (columns : List QuotedName)
  | foreignKey (columns : List QuotedName) (target : WrittenTarget)

namespace Line

def words : Line → List Text
  | primaryKey columns => ["PRIMARY".toList, "KEY".toList, columnList columns]
  | unique columns => ["UNIQUE".toList, columnList columns]
  | foreignKey columns target =>
    "FOREIGN".toList :: "KEY".toList :: columnList columns :: target.words

def print (l : Line) : Text := Text.join [' '] l.words

/-- The table with the constraint folded into its columns. -/
def apply (t : Table) : Line → Table
  | primaryKey columns => t.applyPrimary (columns.map (·.word))
  | unique columns => t.applyUnique (columns.map (·.word))
  | foreignKey columns target =>
    t.applyForeign {
      table := t.name, columns := columns.map (·.word)
      refTable := target.target.table, refColumns := target.target.columns }

/-- The names of a target are no keyword that is looked for in quotes as well. -/
def Valid (l : Line) : Prop :=
  ∀ columns target, l = foreignKey columns target → ∀ n ∈ target.names, IsName n.word

variable {l : Line} {columns : List QuotedName} {target : WrittenTarget}

theorem isPiece_words (l : Line) : ∀ w ∈ l.words, IsPiece w := by
  cases l with
  | primaryKey columns =>
    exact List.forall_mem_cons.mpr ⟨isPiece_keyword (by decide), List.forall_mem_cons.mpr
      ⟨isPiece_keyword (by decide), List.forall_mem_singleton.mpr (isPiece_columnList columns)⟩⟩
  | unique columns =>
    exact List.forall_mem_cons.mpr ⟨isPiece_keyword (by decide),
      List.forall_mem_singleton.mpr (isPiece_columnList columns)⟩
  | foreignKey columns target =>
    exact List.forall_mem_cons.mpr ⟨isPiece_keyword (by decide), List.forall_mem_cons.mpr
      ⟨isPiece_keyword (by decide), List.forall_mem_cons.mpr
        ⟨isPiece_columnList columns, target.isPiece_words⟩⟩⟩

theorem isPiece_print (l : Line) : IsPiece l.print :=
  isPiece_join (Scan.over_mark rfl (by decide) rfl (by decide)) (by decide)
    (by cases l <;> exact List.cons_ne_nil _ _) l.isPiece_words

theorem isTrim_print (l : Line) : IsTrim l.print := by
  have hcloses := l.isPiece_print.closes
  cases l <;> exact hcloses.isTrim (by decide) (List.cons_ne_nil _ _)

theorem partKind_print (l : Line) : partKind l.print =
    match l with
    | primaryKey _ => .primaryKey
    | unique _ => .unique
    | foreignKey _ _ => .foreignKey := by
  cases l <;> rfl

theorem partKind_ne (l : Line) : partKind l.print ≠ .column := by
  rw [partKind_print]
  cases l <;> simp

theorem firstList_columnList {w : Text} (hw : '(' ∉ w) (names : List QuotedName) :
    firstList (w ++ columnList names) = names.map (·.word) := by
  rw [columnList, firstList_behind hw]
  cases names with
  | nil => rfl
  | cons name names =>
    let list : NameList := ⟨name, names⟩
    exact (firstList_of_not_mem list.print_ne_nil list.parenthesis_not_mem_print).trans
      list.listedNames_print

theorem firstList_primaryKey (columns : List QuotedName) :
    firstList (primaryKey columns).print = columns.map (·.word) :=
  firstList_columnList (w := "PRIMARY KEY ".toList) (by decide) columns

theorem firstList_unique (columns : List QuotedName) :
    firstList (unique columns).print = columns.map (·.word) :=
  firstList_columnList (w := "UNIQUE ".toList) (by decide) columns

theorem print_foreignKey (columns : List QuotedName) (target : WrittenTarget) :
    (foreignKey columns target).print = "FOREIGN".toList ++ ' ' :: ("KEY".toList ++
      ' ' :: (columnList columns ++ ' ' :: ("REFERENCES".toList ++ (spaced (target.table.print ::
        (target.columns.map columnList).toList) ++ [])))) := by
  have hspaced : (foreignKey columns target).print = "FOREIGN".toList ++ (spaced ("KEY".toList ::
      columnList columns :: "REFERENCES".toList :: target.table.print ::
        (target.columns.map columnList).toList) ++ []) := by
    rw [List.append_nil]
    exact join_eq_spaced _ _
  rw [hspaced, spaced_cons, spaced_cons, spaced_cons]

theorem read?_foreignKey (hne : columns ≠ []) (target : WrittenTarget) :
    ∃ left, KeyClause.read? (foreignKey columns target).print =
      some (⟨columns.map (·.word), target.target⟩, left) := by
  have hkey : IsKeyword "KEY".toList := by decide
  have hend : Follows (fun _ => True) [] := Or.inl rfl
  obtain ⟨left, htarget⟩ := target.read?_words hend
  rw [print_foreignKey]
  generalize spaced (target.table.print :: (target.columns.map columnList).toList) ++ [] = rest
    at htarget ⊢
  have hopen : skipName (Text.skipBlanks (' ' :: (columnList columns ++
      ' ' :: ("REFERENCES".toList ++ rest)))) =
        columnList columns ++ ' ' :: ("REFERENCES".toList ++ rest) := rfl
  have hblank : Text.skipBlanks (' ' :: ("REFERENCES".toList ++ rest)) =
      "REFERENCES".toList ++ rest := rfl
  obtain ⟨list, hl, hnames⟩ := parenthesised?_columnList hne (' ' :: ("REFERENCES".toList ++ rest))
  refine ⟨left, ?_⟩
  rw [KeyClause.read?, keywordGap?_keyword (by decide) rfl]
  simp only [Option.bind_eq_bind, Option.bind_some, Text.keyword?, hkey.afterCapitals, hopen, hl,
    hblank, htarget, hnames]

theorem passes_foreign :
    Passes (Text.search KeyClause.read?) (fun w => ¬ "FOREIGN".toList <:+ Text.upper w) := by
  obtain ⟨go, hread⟩ : ∃ go : Text → Option (KeyClause × Text), KeyClause.read? =
      fun t => Text.afterCapitals "FOREIGN".toList t >>= fun t => Text.gap? t >>= go :=
    ⟨_, funext fun t => Option.bind_assoc _ _ _⟩
  rw [hread]
  apply passes_search (by decide)
  · intro c t hc
    simp [Text.gap?_of_isPlain hc]
  · intro q r
    simp [Text.gap?, q.isBlank_closer]

/-- Where no columns are listed, no foreign key is found, not even further on. -/
theorem search_emptyKey (ht : ∀ n ∈ target.names, IsName n.word) :
    Text.search KeyClause.read? (foreignKey [] target).print = none := by
  have hkey : IsKeyword "KEY".toList := by decide
  have hclause : (Clause.references target).Valid := ⟨by rintro _ ⟨⟩, ht⟩
  have hprint : (foreignKey [] target).print = "FOREIGN".toList ++ ' ' :: ("KEY".toList ++
      ' ' :: (columnList [] ++ (spaced (Clause.references target).words ++ []))) := by
    rw [print_foreignKey, Clause.words, WrittenTarget.words, spaced_cons "REFERENCES".toList]
  rw [hprint]
  generalize hrest : spaced (Clause.references target).words ++ [] = rest
  have hopen : skipName (Text.skipBlanks (' ' :: (columnList [] ++ rest))) =
      columnList [] ++ rest := rfl
  have hnone : KeyClause.read? ("FOREIGN".toList ++ ' ' :: ("KEY".toList ++
      ' ' :: (columnList [] ++ rest))) = none := by
    rw [KeyClause.read?, keywordGap?_keyword (by decide) rfl]
    simp only [Option.bind_eq_bind, Option.bind_some, Text.keyword?, hkey.afterCapitals, hopen,
      parenthesised?_empty, Option.bind_none]
  have hskip : Text.search KeyClause.read? ("FOREIGN".toList ++ ' ' :: ("KEY".toList ++
      ' ' :: (columnList [] ++ rest))) = Text.search KeyClause.read? ("OREIGN".toList ++
        ' ' :: ("KEY".toList ++ ' ' :: (columnList [] ++ rest))) := search_cons hnone
  have h := passes_foreign
  rw [hskip, h.word (by decide) (by decide) rfl, h.mark (by decide),
    h.word (by decide) (by decide) rfl, h.mark (by decide), h.columnList (by simp), ← hrest,
    h.clause hclause (List.forall_mem_singleton.mpr (by decide)) (by simp [Ends])]
  rfl

/-- A line is read as the constraint that was written. -/
theorem applyPart_print (hl : l.Valid) (t : Table) : applyPart t l.print = l.apply t := by
  cases l with
  | primaryKey columns =>
    rw [applyPart, partKind_print, firstList_primaryKey]
    rfl
  | unique columns =>
    rw [applyPart, partKind_print, firstList_unique]
    rfl
  | foreignKey columns target =>
    rw [applyPart, partKind_print]
    by_cases hne : columns = []
    · subst hne
      have hnone := search_emptyKey (hl _ _ rfl)
      simp only [foreignKey?, hnone, Option.map_none]
      rfl
    · obtain ⟨left, hread⟩ := read?_foreignKey hne target
      have hfound : Text.search KeyClause.read? (foreignKey columns target).print = _ :=
        (search_eq_read (Option.isSome_of_mem hread)).trans hread
      simp only [foreignKey?, hfound, Option.map_some]
      rfl

theorem foldl_applyPart {ls : List Line} (hl : ∀ l ∈ ls, l.Valid) (t : Table) :
    (ls.map print).foldl applyPart t = ls.foldl apply t := by
  induction ls generalizing t with
  | nil => rfl
  | cons l ls ih =>
    obtain ⟨hl, hls⟩ := List.forall_mem_cons.mp hl
    rw [List.map_cons, List.foldl_cons, applyPart_print hl, ih hls, List.foldl_cons]

/-- What every change of a column keeps that leaves its name and its type alone, lines keep. -/
theorem foldl_apply_keeps {P : Table → Prop}
    (h : ∀ (t : Table) (change : Column → Column) (name : Text),
      (∀ c, (change c).name = c.name ∧ (change c).type = c.type) → P t →
        P (t.changeColumn name change))
    (ls : List Line) (ht : P t) : P (ls.foldl apply t) := by
  refine List.foldlRecOn ls apply ht fun t ht l _ => ?_
  cases l with
  | primaryKey columns =>
    exact Table.foldl_changeColumn id (fun _ => Column.markPrimary) _
      (fun u name => h u Column.markPrimary name fun _ => ⟨rfl, rfl⟩) ht
  | unique columns =>
    rw [apply]
    unfold Table.applyUnique
    split
    · exact h t Column.markUnique _ (fun _ => ⟨rfl, rfl⟩) ht
    · exact ht
  | foreignKey columns target =>
    exact Table.foldl_changeColumn Prod.fst
      (fun pair => Column.pointAt target.target.table pair.2) _
      (fun u pair => h u (Column.pointAt _ pair.2) pair.1 fun _ => ⟨rfl, rfl⟩) ht

end Line

/-- The table of some definitions and lines: the columns first, then the lines on them. -/
theorem tableOf_definitions {ds : List Definition} {ls : List Line} (hd : ∀ d ∈ ds, d.Valid)
    (hn : (ds.map fun d => Text.lower d.name.word).Nodup) (hl : ∀ l ∈ ls, l.Valid) (name : Text) :
    tableOf name (ds.map Definition.print ++ ls.map Line.print) =
      ls.foldl Line.apply ⟨name, ds.map Definition.column⟩ := by
  have hnames : ((ds.map Definition.column).map fun c => Text.lower c.name).Nodup := by
    rwa [List.map_map]
  have hdeclare := foldl_declarePart_map (u := ⟨name, []⟩) Definition.print Definition.column
    (fun d _ => d.partKind_print) (fun d hm => (hd d hm).column?_print) hnames
  have hkinds : ∀ p ∈ ds.map Definition.print, partKind p = .column := by
    intro p hp
    obtain ⟨d, -, rfl⟩ := List.mem_map.mp hp
    exact d.partKind_print
  have hlines : ∀ p ∈ ls.map Line.print, partKind p ≠ .column := by
    intro p hp
    obtain ⟨l, -, rfl⟩ := List.mem_map.mp hp
    exact l.partKind_ne
  rw [tableOf_append hkinds hlines, hdeclare, Line.foldl_applyPart hl]
  rfl

/-- The name of the table that a statement creates, and the parts of its body. -/
def body? (statement : Text) : Option (Text × List Text) := do
  let (name, rest) ← createHead? statement
  let (body, _) ← Scan.body? { depth := 1 } rest
  some (name, parts body)

/-- A statement creates the table of its parts. -/
theorem createTable_eq_some_iff {statement : Text} :
    createTable statement = .ok (some t) ↔
      ∃ name ps, body? statement = some (name, ps) ∧ tableOf name ps = t := by
  unfold createTable body?
  cases createHead? statement with
  | none => simp
  | some head =>
    obtain ⟨name, rest⟩ := head
    cases hb : Scan.body? { depth := 1 } rest <;> simp [hb]

/-- The statement that creates a table of some parts, and what follows it. -/
def creation (table : QualifiedName) (ps : List Text) (rest : Text) : Text :=
  "CREATE".toList ++ ' ' :: ("TABLE".toList ++ ' ' :: (table.print ++
    ' ' :: '(' :: (Text.join [',', ' '] ps ++ ')' :: rest)))

theorem createHead?_creation (table : QualifiedName) (ps : List Text) (rest : Text) :
    createHead? (creation table ps rest) =
      some (table.name.word, Text.join [',', ' '] ps ++ ')' :: rest) := by
  unfold creation
  generalize Text.join [',', ' '] ps ++ ')' :: rest = body
  have htemporary : skipTemporary ("TABLE".toList ++ ' ' :: (table.print ++ ' ' :: '(' :: body)) =
      "TABLE".toList ++ ' ' :: (table.print ++ ' ' :: '(' :: body) := rfl
  have hexists : skipIfNotExists (table.print ++ ' ' :: '(' :: body) =
      table.print ++ ' ' :: '(' :: body := by
    have hif : Text.keywordGap? "IF" (table.print ++ ' ' :: '(' :: body) = none :=
      table.keywordGap?_print (by decide) _
    rw [skipIfNotExists, hif]
    rfl
  have hopen : Text.skipBlanks (' ' :: '(' :: body) = '(' :: body := rfl
  rw [createHead?, keywordGap?_keyword (by decide) rfl]
  simp only [Option.bind_eq_bind, Option.bind_some, htemporary,
    keywordGap?_keyword (k := "TABLE") (by decide) (table.skipBlanks_print _), hexists,
    table.head?_qualified_print (r := ' ' :: '(' :: body) rfl, hopen, table.name.unquote_print]

theorem body?_creation {table : QualifiedName} {ps : List Text}
    (h : ∀ p ∈ ps, Scan.Over (Scan.level 0) p (Scan.level 0) ∧ IsTrim p) (rest : Text) :
    body? (creation table ps rest) = some (table.name.word, ps) := by
  have hbody := Scan.body?_join (r := rest) fun p hp => (h p hp).1
  rw [body?, createHead?_creation]
  simp only [Option.bind_eq_bind, Option.bind_some,
    show ({ depth := 1 } : Scan) = Scan.level 1 from rfl, hbody, parts_join h]

/-- A table of definitions and lines. -/
structure WrittenTable where
  name : QualifiedName
  definitions : List Definition
  lines : List Line

namespace WrittenTable

/-- The statement that creates the table, and what follows it. -/
def print (w : WrittenTable) (rest : Text) : Text :=
  creation w.name (w.definitions.map Definition.print ++ w.lines.map Line.print) rest

def table (w : WrittenTable) : Table :=
  w.lines.foldl Line.apply ⟨w.name.name.word, w.definitions.map Definition.column⟩

structure Valid (w : WrittenTable) : Prop where
  definitions : ∀ d ∈ w.definitions, d.Valid
  lines : ∀ l ∈ w.lines, l.Valid
  nodup : (w.definitions.map fun d => Text.lower d.name.word).Nodup

/-- The statement creates the table that was written. -/
theorem Valid.createTable_eq {w : WrittenTable} (hw : w.Valid) (rest : Text) :
    createTable (w.print rest) = .ok (some w.table) := by
  have hparts : ∀ p ∈ w.definitions.map Definition.print ++ w.lines.map Line.print,
      Scan.Over (Scan.level 0) p (Scan.level 0) ∧ IsTrim p := by
    intro p hp
    rcases List.mem_append.mp hp with hp | hp
    · obtain ⟨d, hd, rfl⟩ := List.mem_map.mp hp
      exact ⟨(hw.definitions d hd).over_print, (hw.definitions d hd).isTrim_print⟩
    · obtain ⟨l, -, rfl⟩ := List.mem_map.mp hp
      exact ⟨l.isPiece_print.passes, l.isTrim_print⟩
  exact createTable_eq_some_iff.mpr ⟨_, _, body?_creation hparts rest,
    tableOf_definitions hw.definitions hw.nodup hw.lines _⟩

end WrittenTable
end SchemaDiagram.Sql
