import SchemaDiagram.Proofs.Schema.Repetition
import SchemaDiagram.Proofs.Sql.Agreement
import SchemaDiagram.Proofs.Sql.Lines

/-!
Foreign keys in the statement that creates a table, or in one that changes it later. The one table
has them once; the other gets them when its statements are read and again when the whole script is
searched, which makes no difference.
-/
namespace SchemaDiagram.Sql

variable {t u r sep : Text} {ps : List Text} {c : Char}

/-- A search for statements that change tables passes over a text before the end of a word. -/
def Inert (t : Text) : Prop := ∀ r, Text.atWordEnd r = true →
  Text.searchAll alteration? 0 (t ++ r) = Text.searchAll alteration? 0 r

/-- The search is one for a keyword with a gap behind it. -/
theorem exists_afterAlter : ∃ go : Text → Option ((Text × Text) × Text),
    alteration? = (fun t => Text.afterCapitals "ALTER".toList t >>= go) ∧
      ∀ t, Text.gap? t = none → go t = none := by
  have hkeyword : ∀ {t r}, Text.afterCapitals "ALTER".toList t = r →
      Text.keywordGap? "ALTER" t = r >>= Text.gap? := fun h => congrArg (· >>= Text.gap?) h
  have hword : IsKeyword "ALTER".toList := by decide
  refine ⟨fun t => Text.gap? t >>= fun _ => alteration? ("ALTER".toList ++ t), funext fun t => ?_,
    fun t ht => by simp only [ht, Option.bind_eq_bind, Option.bind_none]⟩
  cases h : Text.afterCapitals "ALTER".toList t with
  | none => exact alteration?_of_keywordGap? (hkeyword h)
  | some r =>
    rw [Option.bind_eq_bind, Option.bind_some]
    cases hgap : Text.gap? r with
    | none => exact alteration?_of_keywordGap? ((hkeyword h).trans hgap)
    | some r' =>
      simp only [alteration?, alterHeads, hkeyword h, hkeyword hword.afterCapitals,
        Option.bind_eq_bind, Option.bind_some]

theorem passes_alteration :
    Passes (Text.searchAll alteration? 0) (fun w => ¬ "ALTER".toList <:+ Text.upper w) := by
  obtain ⟨go, hread, hgap⟩ := exists_afterAlter
  rw [hread]
  refine passes_anywhere (by decide) (fun c t hc => hgap _ (Text.gap?_of_isPlain hc))
    (fun hnone => searchAll_cons hnone) fun q r => hgap _ ?_
  simp [Text.gap?, q.isBlank_closer]

/-- No name in quotes starts such a statement, not even the keyword of it. -/
theorem searchAll_alteration_quoted (n : QuotedName) (r : Text) :
    Text.searchAll alteration? 0 (n.print ++ r) = Text.searchAll alteration? 0 r := by
  have hword : Text.searchAll alteration? 0 (n.word ++ n.quotes.closer :: r) =
      Text.searchAll alteration? 0 (n.quotes.closer :: r) := by
    obtain ⟨go, hread, hgap⟩ := exists_afterAlter
    rw [hread]
    refine passes_quoted (by decide) (fun c t hc => hgap _ (Text.gap?_of_isPlain hc))
      (fun hnone => searchAll_cons hnone) (fun q r => hgap _ ?_) n.quotes n.plain
    simp [Text.gap?, q.isBlank_closer]
  rw [QuotedName.print, Quotes.around_append, passes_alteration.mark n.quotes.isWord_opener, hword,
    passes_alteration.mark n.quotes.isWord_closer]

namespace Inert

theorem nil : Inert [] := fun _ _ => rfl

theorem word (ht : Text.Plain t) (hm : ¬ "ALTER".toList <:+ Text.upper t) : Inert t :=
  fun _ hr => passes_alteration.word ht hm hr

theorem mark (hc : Text.isWord c = false) (ht : Inert t) : Inert (c :: t) :=
  fun r hr => (passes_alteration.mark hc).trans (ht r hr)

theorem append (hc : Text.isWord c = false) (ht : Inert t) (hu : Inert (c :: u)) :
    Inert (t ++ c :: u) := by
  intro r hr
  have hend : Text.atWordEnd (c :: u ++ r) = true := by simp [Text.atWordEnd, hc]
  rw [List.append_assoc, ht _ hend, hu r hr]

theorem quoted (n : QuotedName) : Inert n.print := fun r _ => searchAll_alteration_quoted n r

theorem qualified (n : QualifiedName) : Inert n.print := by
  obtain ⟨scope, name⟩ := n
  induction scope with
  | nil => exact quoted name
  | cons q scope ih =>
    rw [QualifiedName.print_cons]
    exact (quoted q).append (by decide) (ih.mark (by decide))

theorem join (hsep : ∀ t, Inert t → Inert (sep ++ t)) (hc : sep = c :: u)
    (hmark : Text.isWord c = false) (hp : ∀ p ∈ ps, Inert p) : Inert (Text.join sep ps) := by
  fun_induction Text.join sep ps with
  | case1 => exact nil
  | case2 p => exact hp p (by simp)
  | case3 p ps _ ih =>
    obtain ⟨hfirst, hps⟩ := List.forall_mem_cons.mp hp
    have hrest := hsep _ (ih hps)
    rw [List.append_assoc]
    rw [hc] at hrest ⊢
    exact hfirst.append hmark hrest

theorem spaced (hp : ∀ p ∈ ps, Inert p) : Inert (Text.join [' '] ps) :=
  join (c := ' ') (fun _ ht => ht.mark (by decide)) rfl (by decide) hp

theorem listed (hp : ∀ p ∈ ps, Inert p) : Inert (Text.join [',', ' '] ps) :=
  join (c := ',') (fun _ ht => (ht.mark (by decide)).mark (by decide)) rfl (by decide) hp

/-- A text in parentheses. -/
theorem enclosed (ht : Inert t) (hu : Inert u) : Inert ('(' :: (t ++ ')' :: u)) :=
  (ht.append (by decide) (hu.mark (by decide))).mark (by decide)

theorem names (l : NameList) : Inert ('(' :: (l.print ++ [')'])) := by
  refine enclosed (listed fun p hp => ?_) nil
  obtain ⟨n, -, rfl⟩ := List.mem_map.mp hp
  exact quoted n

theorem creation (table : QualifiedName) (hp : ∀ p ∈ ps, Inert p) (hr : Inert r) :
    Inert (creation table ps r) := by
  have hbody := ((enclosed (listed hp) hr).mark (c := ' ') (by decide))
  have htable := ((qualified table).append (by decide) hbody).mark (c := ' ') (by decide)
  have hkind := ((word (t := "TABLE".toList) (by decide) (by decide)).append (by decide)
    htable).mark (c := ' ') (by decide)
  exact (word (by decide) (by decide)).append (by decide) hkind

end Inert

theorem KeyAddition.inert_clauseWords (k : KeyAddition) : Inert (Text.join [' '] k.clauseWords) := by
  have hword : ∀ {w : Text}, IsKeyword w → ¬ "ALTER".toList <:+ Text.upper w → Inert w :=
    fun hw hm => Inert.word hw.plain hm
  refine Inert.spaced ?_
  simp only [clauseWords, targetWords, List.forall_mem_cons]
  exact ⟨hword (by decide) (by decide), hword (by decide) (by decide), Inert.names k.columns,
    hword (by decide) (by decide), Inert.qualified k.target, Inert.names k.parents, by simp⟩

/-- A search of a text that ends with statements each on a line of its own finds their keys. -/
theorem Inert.alterations_append (ht : Inert t) (as : List Alteration) :
    alterations (t ++ as.flatMap fun a => '\n' :: a.print) = as.flatMap Alteration.keys := by
  have hlines : Text.searchAll alteration? 0 (as.flatMap fun a => '\n' :: a.print) =
      as.map fun a => (a.table.name.word, a.actions) := by
    induction as with
    | nil => rfl
    | cons a as ih =>
      rw [List.flatMap_cons, List.cons_append, searchAll_cons (alteration?_figure (by decide)),
        a.searchAll_print, ih, List.map_cons]
  have hend : Text.atWordEnd (as.flatMap fun a => '\n' :: a.print) = true := by
    cases as <;> rfl
  rw [alterations, ht _ hend, hlines, List.flatMap_map]
  exact congrArg (as.flatMap ·) (funext fun a => map_searchAll_actions readsClauses_readFull? a)

/-- A table of integers, and foreign keys over them. -/
structure KeyedTable where
  name : QualifiedName
  columns : List QuotedName
  keys : List KeyAddition

namespace KeyedTable

/-- The definitions of the columns. -/
def parts (t : KeyedTable) : List Text :=
  t.columns.map fun n => Text.join [' '] [n.print, "INT".toList]

/-- The keys on lines of their own. -/
def lines (t : KeyedTable) : List Text := t.keys.map fun k => Text.join [' '] k.clauseWords

def ending : Text := " ENGINE=InnoDB;".toList

/-- The statement that creates the table with its keys. -/
def whole (t : KeyedTable) : Text := creation t.name (t.parts ++ t.lines) ending

/-- The statement that creates the table without them. -/
def bare (t : KeyedTable) : Text := creation t.name t.parts ending

/-- The statement that adds the keys, if there are any. -/
def additions (t : KeyedTable) : List Alteration :=
  match t.keys with
  | [] => []
  | k :: ks => [⟨t.name, .key k, ks.map .key⟩]

/-- The script that creates the table first and adds the keys to it then. -/
def apart (t : KeyedTable) : Text := t.bare ++ t.additions.flatMap fun a => '\n' :: a.print

def foreignKeys (t : KeyedTable) : List ForeignKey := t.keys.map (·.key t.name.name.word)

/-- The table with its keys folded in. -/
def table (t : KeyedTable) : Table :=
  t.foreignKeys.foldl Table.applyForeign (tableOf t.name.name.word t.parts)

variable (t : KeyedTable)

theorem flatMap_additions : t.additions.flatMap Alteration.keys = t.foreignKeys := by
  obtain ⟨name, columns, keys⟩ := t
  cases keys with
  | nil => rfl
  | cons k ks =>
    have hkeys : ∀ ks : List KeyAddition,
        (ks.map Addition.key).filterMap (Addition.key? name.name.word) =
          ks.map (·.key name.name.word) := by
      intro ks
      rw [List.filterMap_map]
      exact congrFun List.filterMap_eq_map ks
    exact (List.append_nil _).trans (hkeys (k :: ks))

theorem partKind_parts : ∀ p ∈ t.parts, partKind p = .column := by
  intro p hp
  obtain ⟨⟨quotes, word, _, _⟩, -, rfl⟩ := List.mem_map.mp hp
  cases quotes <;> rfl

theorem isPart_parts : ∀ p ∈ t.parts, Scan.Over (Scan.level 0) p (Scan.level 0) ∧ IsTrim p := by
  intro p hp
  obtain ⟨n, -, rfl⟩ := List.mem_map.mp hp
  have hpiece : IsPiece (Text.join [' '] [n.print, "INT".toList]) :=
    isPiece_join (Scan.over_mark rfl (by decide) rfl (by decide)) (by decide)
      (List.cons_ne_nil _ _) (List.forall_mem_cons.mpr
        ⟨isPiece_name n, List.forall_mem_singleton.mpr (isPiece_keyword (by decide))⟩)
  have hcloses : Closes (n.quotes.opener ::
      (n.word ++ [n.quotes.closer] ++ [' '] ++ "INT".toList)) := hpiece.closes
  exact ⟨hpiece.passes, hcloses.isTrim n.quotes.isBlank_opener (by simp)⟩

theorem isPart_lines : ∀ p ∈ t.lines, Scan.Over (Scan.level 0) p (Scan.level 0) ∧ IsTrim p := by
  intro p hp
  obtain ⟨k, -, rfl⟩ := List.mem_map.mp hp
  have hpiece : IsPiece (Text.join [' '] k.clauseWords) :=
    isPiece_join (Scan.over_mark rfl (by decide) rfl (by decide)) (by decide)
      k.clauseWords_ne_nil k.isPiece_clauseWords
  exact ⟨hpiece.passes, hpiece.closes.isTrim (by decide) (List.cons_ne_nil _ _)⟩

theorem inert_ending : Inert ending := by
  have hword : ∀ {w : Text}, Text.Plain w → ¬ "ALTER".toList <:+ Text.upper w → Inert w :=
    fun hw hm => Inert.word hw hm
  have hstore : Inert ("InnoDB".toList ++ [';']) :=
    (hword (by decide) (by decide)).append (by decide) (Inert.nil.mark (by decide))
  have hengine : Inert ("ENGINE".toList ++ '=' :: ("InnoDB".toList ++ [';'])) :=
    (hword (by decide) (by decide)).append (by decide) (hstore.mark (by decide))
  exact hengine.mark (by decide)

theorem inert_parts : ∀ p ∈ t.parts, Inert p := by
  intro p hp
  obtain ⟨n, -, rfl⟩ := List.mem_map.mp hp
  have htype : Inert "INT".toList := Inert.word (by decide) (by decide)
  exact Inert.spaced (List.forall_mem_cons.mpr
    ⟨Inert.quoted n, List.forall_mem_singleton.mpr htype⟩)

theorem inert_lines : ∀ p ∈ t.lines, Inert p := by
  intro p hp
  obtain ⟨k, -, rfl⟩ := List.mem_map.mp hp
  exact k.inert_clauseWords

theorem partKind_line (k : KeyAddition) :
    partKind (Text.join [' '] k.clauseWords) = .foreignKey := rfl

/-- A line folds its key into the table, whatever the name of the table. -/
theorem applyPart_line (k : KeyAddition) (u : Table) (name : Text) :
    applyPart u (Text.join [' '] k.clauseWords) = u.applyForeign (k.key name) := by
  have hread := readsClauses_read?.clause k []
  rw [List.append_nil] at hread
  have hfound := (search_eq_read (Option.isSome_of_mem hread)).trans hread
  simp only [applyPart, partKind_line, foreignKey?, hfound, Option.map_some]
  rfl

theorem tableOf_name : (tableOf t.name.name.word t.parts).name = t.name.name.word := by
  rw [tableOf, foldl_applyPart_columns t.partKind_parts]
  have hpart : ∀ u p, (declarePart u p).name = u.name := by
    intro u p
    unfold declarePart
    split
    · unfold Table.declare
      split <;> rfl
    · rfl
  exact List.foldlRecOn (motive := fun u : Table => u.name = t.name.name.word) t.parts
    declarePart rfl fun u hu p _ => (hpart u p).trans hu

/-- The lines come after the columns, and declare none. -/
theorem tableOf_whole : tableOf t.name.name.word (t.parts ++ t.lines) = t.table := by
  have hlines : ∀ p ∈ t.lines, partKind p ≠ .column := by
    intro p hp
    obtain ⟨k, -, rfl⟩ := List.mem_map.mp hp
    rw [partKind_line]
    decide
  have hbare : tableOf t.name.name.word t.parts = t.parts.foldl declarePart _ :=
    foldl_applyPart_columns t.partKind_parts _
  rw [tableOf_append t.partKind_parts hlines, ← hbare, lines, List.foldl_map, table, foreignKeys,
    List.foldl_map]
  exact congrArg (t.keys.foldl · _) (funext₂ fun u k => applyPart_line k u t.name.name.word)

theorem createTable_whole : createTable t.whole = .ok (some t.table) :=
  createTable_eq_some_iff.mpr ⟨_, _, body?_creation
    (List.forall_mem_append.mpr ⟨t.isPart_parts, t.isPart_lines⟩) ending, t.tableOf_whole⟩

theorem createTable_bare :
    createTable t.bare = .ok (some (tableOf t.name.name.word t.parts)) :=
  createTable_eq_some_iff.mpr ⟨_, _, body?_creation t.isPart_parts ending, rfl⟩

theorem inert_whole : Inert t.whole :=
  Inert.creation t.name (List.forall_mem_append.mpr ⟨t.inert_parts, t.inert_lines⟩) inert_ending

theorem inert_bare : Inert t.bare := Inert.creation t.name t.inert_parts inert_ending

/-- A search through the first script finds nothing, even if a name is the keyword itself. -/
theorem alterations_whole : alterations t.whole = [] := by
  have hsearch := t.inert_whole.alterations_append []
  rwa [List.flatMap_nil, List.append_nil] at hsearch

theorem alterations_apart : alterations t.apart = t.foreignKeys := by
  rw [apart, t.inert_bare.alterations_append, t.flatMap_additions]

/-- The tables and keys that the statements of the second script declare. -/
theorem foldlM_declareStatement_apart :
    (⟨.create, t.bare⟩ :: t.additions.map fun a => ⟨.alter, a.print⟩).foldlM declareStatement {} =
      .ok { tables := [tableOf t.name.name.word t.parts], foreignKeys := t.foreignKeys } := by
  have hkeys : ∀ (as : List Alteration) (found : Declarations),
      (as.map fun a => (⟨.alter, a.print⟩ : Outline)).foldlM declareStatement found =
        .ok { found with foreignKeys := found.foreignKeys ++ as.flatMap Alteration.keys } := by
    intro as
    induction as with
    | nil => simp [pure, Except.pure]
    | cons a as ih =>
      intro found
      have hread : alterTable (a.print ++ []) = a.keys := a.alterTable_append rfl
      rw [List.append_nil] at hread
      have hstep : declareStatement found ⟨.alter, a.print⟩ =
          .ok { found with foreignKeys := found.foreignKeys ++ a.keys } := by
        simp only [declareStatement, hread]
      rw [List.map_cons, List.foldlM_cons, hstep, List.flatMap_cons, ← List.append_assoc]
      exact ih _
  rw [List.foldlM_cons, declareStatement, t.createTable_bare, ← t.flatMap_additions]
  exact hkeys t.additions _

variable {t} {readers : Readers}

/-- Whether the foreign keys of a table stand in the statement that creates it or are added in one
that follows, a schema gets the same table. -/
theorem addScript_apart (hw : Engine.scanner.handles (Dialect.detect t.whole) = true)
    (ha : Engine.scanner.handles (Dialect.detect t.apart) = true)
    (hcw : readers.splitter.clean t.whole = .ok t.whole)
    (hsw : readers.splitter.split t.whole = .ok [⟨.create, t.whole⟩])
    (hca : readers.splitter.clean t.apart = .ok t.apart)
    (hsa : readers.splitter.split t.apart =
      .ok (⟨.create, t.bare⟩ :: t.additions.map fun a => ⟨.alter, a.print⟩)) :
    (Building.addScript Engine.all t.whole readers).run [] = (.ok 1, [t.table]) ∧
      (Building.addScript Engine.all t.apart readers).run [] = (.ok 1, [t.table]) := by
  have hreadw : Engine.scanner.read t.whole readers = .ok { tables := [t.table] } := by
    rw [Engine.read_of_split hcw hsw, List.foldlM_cons, declareStatement, t.createTable_whole]
    rfl
  have hreada : Engine.scanner.read t.apart readers = .ok {
      tables := [tableOf t.name.name.word t.parts], foreignKeys := t.foreignKeys } :=
    (Engine.read_of_split hca hsa).trans t.foldlM_declareStatement_apart
  have hrecoverw : Engine.scanner.recover t.whole readers = .ok [] :=
    (Engine.recover_of_clean hcw).trans (congrArg Except.ok t.alterations_whole)
  have hrecovera : Engine.scanner.recover t.apart readers = .ok t.foreignKeys :=
    (Engine.recover_of_clean hca).trans (congrArg Except.ok t.alterations_apart)
  have hnames : ∀ k ∈ t.foreignKeys, k.table = (tableOf t.name.name.word t.parts).name := by
    intro k hk
    obtain ⟨_, -, rfl⟩ := List.mem_map.mp hk
    exact t.tableOf_name.symm
  have hextend : Schema.extend [] {
      tables := [tableOf t.name.name.word t.parts]
      foreignKeys := t.foreignKeys } t.foreignKeys = [t.table] :=
    (Schema.applyForeignKeys_twice _ _).trans (Schema.applyForeignKeys_singleton hnames)
  refine ⟨Building.addScript_of_read (Engine.pick_scanner hw) hreadw hrecoverw, ?_⟩
  rw [Building.addScript_of_read (Engine.pick_scanner ha) hreada hrecovera, hextend]
  rfl

/-- A column that is named like the keyword, and two keys over it. -/
def ofSong : KeyedTable where
  name := ⟨[], ⟨.backticks, "song".toList, by decide, by decide⟩⟩
  columns := [⟨.backticks, "ref".toList, by decide, by decide⟩,
    ⟨.backticks, "ALTER".toList, by decide, by decide⟩]
  keys := [{
      constraint := none
      columns := ⟨⟨.backticks, "ALTER".toList, by decide, by decide⟩, []⟩
      target := ⟨[], ⟨.backticks, "singer".toList, by decide, by decide⟩⟩
      parents := ⟨⟨.backticks, "place".toList, by decide, by decide⟩, []⟩ }, {
      constraint := none
      columns := ⟨⟨.backticks, "REF".toList, by decide, by decide⟩,
        [⟨.backticks, "alter".toList, by decide, by decide⟩]⟩
      target := ⟨[], ⟨.backticks, "record".toList, by decide, by decide⟩⟩
      parents := ⟨⟨.backticks, "UNIQUE".toList, by decide, by decide⟩, []⟩ }]

theorem addScript_apart_song :
    ofSong.whole = ("CREATE TABLE `song` (`ref` INT, `ALTER` INT, " ++
      "FOREIGN KEY (`ALTER`) REFERENCES `singer` (`place`), " ++
      "FOREIGN KEY (`REF`, `alter`) REFERENCES `record` (`UNIQUE`)) ENGINE=InnoDB;").toList ∧
    ofSong.apart = ("CREATE TABLE `song` (`ref` INT, `ALTER` INT) ENGINE=InnoDB;\n" ++
      "ALTER TABLE `song` ADD FOREIGN KEY (`ALTER`) REFERENCES `singer` (`place`), " ++
      "ADD FOREIGN KEY (`REF`, `alter`) REFERENCES `record` (`UNIQUE`);").toList ∧
    (Building.addScript Engine.all ofSong.whole).run [] = (.ok 1, [ofSong.table]) ∧
    (Building.addScript Engine.all ofSong.apart).run [] = (.ok 1, [ofSong.table]) := by
  refine ⟨by decide +kernel, by decide +kernel, ?_⟩
  exact addScript_apart (by decide +kernel) (by decide +kernel)
    (eq_ok_of_toOption (by decide +kernel)) (eq_ok_of_toOption (by decide +kernel))
    (eq_ok_of_toOption (by decide +kernel)) (eq_ok_of_toOption (by decide +kernel))

end KeyedTable
end SchemaDiagram.Sql
