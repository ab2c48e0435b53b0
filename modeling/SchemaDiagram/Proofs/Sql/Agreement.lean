import SchemaDiagram.Proofs.Sql.Actions
import SchemaDiagram.Sql.Script

/-!
The search through a whole script finds the foreign keys that are read statement by statement, and
both are the ones that were written.
-/
namespace SchemaDiagram.Sql

variable {α β : Type} {c : Char} {k : String} {t r w sep : Text}
  {read : Text → Option (α × Text)} {go : Text → Option (α × Text)}

theorem searchAll_skip (read : Text → Option (α × Text)) (w r : Text) :
    Text.searchAll read w.length (w ++ r) = Text.searchAll read 0 r := by
  induction w with
  | nil => rfl
  | cons c w ih => exact ih

/-- After an answer the search goes on with what follows it. -/
theorem searchAll_found {a : α} (hne : w ≠ []) (h : read (w ++ r) = some (a, r)) :
    Text.searchAll read 0 (w ++ r) = a :: Text.searchAll read 0 r := by
  obtain ⟨c, w, rfl⟩ := List.exists_cons_of_ne_nil hne
  have hlength : (w ++ r).length - r.length = w.length := by simp
  rw [List.cons_append] at h ⊢
  simp only [Text.searchAll, h, hlength, searchAll_skip]

theorem searchAll_cons (h : read (c :: r) = none) :
    Text.searchAll read 0 (c :: r) = Text.searchAll read 0 r := by
  simp only [Text.searchAll, h]

theorem searchAll_figures (hread : ∀ {c r}, isFigure c = true → read (c :: r) = none)
    (ht : ∀ c ∈ t, isFigure c = true) (r : Text) :
    Text.searchAll read 0 (t ++ r) = Text.searchAll read 0 r := by
  induction t with
  | nil => rfl
  | cons c t ih =>
    obtain ⟨hc, ht⟩ := List.forall_mem_cons.mp ht
    rw [List.cons_append, searchAll_cons (hread hc), ih ht]

/-- A search for a keyword passes over a word after which nothing is read. -/
theorem searchAll_plain (hk : Text.Plain k.toList) (hw : Text.Plain w)
    (hr : Text.atWordEnd r = true) (hgo : (Text.gap? r >>= go) = none) :
    Text.searchAll (fun t => Text.keywordGap? k t >>= go) 0 (w ++ r) =
      Text.searchAll (fun t => Text.keywordGap? k t >>= go) 0 r := by
  induction w with
  | nil => rfl
  | cons c w ih =>
    have hnone := Text.keywordGap?_bind go hk hw hr
    rw [hgo, ite_self] at hnone
    exact (searchAll_cons hnone).trans (ih (Text.plain_cons.mp hw).2)

/-- The answers that a search finds in joined texts are the answers in one text after the other,
when what follows a text may follow it. -/
theorem searchAll_join {write : β → Text} {answers : β → List α} {bs : List β}
    {follows : Text → Prop}
    (hread : ∀ b ∈ bs, ∀ r, follows r →
      Text.searchAll read 0 (write b ++ r) = answers b ++ Text.searchAll read 0 r)
    (hsep : ∀ r, follows (sep ++ r) ∧ Text.searchAll read 0 (sep ++ r) = Text.searchAll read 0 r)
    (hr : follows r ∧ Text.searchAll read 0 r = []) :
    Text.searchAll read 0 (Text.join sep (bs.map write) ++ r) = bs.flatMap answers := by
  induction bs with
  | nil => exact hr.2
  | cons b bs ih =>
    obtain ⟨hb, hbs⟩ := List.forall_mem_cons.mp hread
    cases bs with
    | nil =>
      have hlast := hb r hr.1
      rw [hr.2] at hlast
      simpa [Text.join] using hlast
    | cons b' bs =>
      have hnext := hb (sep ++ (Text.join sep ((b' :: bs).map write) ++ r)) (hsep _).1
      rw [(hsep _).2, ih hbs] at hnext
      simpa [Text.join] using hnext

section

variable {clause? : Text → Option (KeyClause × Text)}

theorem added?_figure (hc : isFigure c = true) : added? clause? (c :: r) = none := by
  rw [added?_eq, keywordGap?_figure (by decide) hc, Option.bind_eq_bind, Option.bind_none]

/-- A search for clauses passes over a name in quotes, be it the keyword for additions. -/
theorem searchAll_quoted (name : QuotedName) (r : Text) :
    Text.searchAll (added? clause?) 0 (name.print ++ r) = Text.searchAll (added? clause?) 0 r := by
  have hend : Text.atWordEnd (name.quotes.closer :: r) = true := by
    simp [Text.atWordEnd, name.quotes.isWord_closer]
  have hgo : (Text.gap? (name.quotes.closer :: r) >>= clauseAfter? clause?) = none := by
    simp [Text.gap?, name.quotes.isBlank_closer]
  have hword : Text.searchAll (added? clause?) 0 (name.word ++ name.quotes.closer :: r) =
      Text.searchAll (added? clause?) 0 (name.quotes.closer :: r) :=
    searchAll_plain (by decide) name.plain hend hgo
  rw [QuotedName.print, Quotes.around_append,
    searchAll_cons (added?_figure (isFigure_of_mark name.quotes.isWord_opener)), hword]
  exact searchAll_cons (added?_figure (isFigure_of_mark name.quotes.isWord_closer))

variable (h : ReadsClauses clause?)

include h

/-- A search for clauses passes over an added column. -/
theorem searchAll_column (name : QuotedName) (hr : Text.atWordEnd r = true)
    (hgap : Text.gap? r = none) :
    Text.searchAll (added? clause?) 0 ((Addition.column name).print ++ r) =
      Text.searchAll (added? clause?) 0 r := by
  have hword : ∀ {w t : Text}, IsKeyword w → Text.atWordEnd t = true →
      (Text.gap? t >>= clauseAfter? clause?) = none →
      Text.searchAll (added? clause?) 0 (w ++ t) = Text.searchAll (added? clause?) 0 t :=
    fun hw => searchAll_plain (by decide) hw.plain
  have hblank : ∀ t : Text, Text.searchAll (added? clause?) 0 (' ' :: t) =
      Text.searchAll (added? clause?) 0 t := fun t => searchAll_cons (added?_figure (by decide))
  have hnone : ∀ {t : Text}, Text.skipBlanks t = t → Text.keywordGap? "CONSTRAINT" t = none →
      Text.keywordGap? "FOREIGN" t = none →
      (Text.gap? (' ' :: t) >>= clauseAfter? clause?) = none := by
    intro t ht hc hf
    rw [Text.gap?_blank, ht, Option.bind_eq_bind, Option.bind_some]
    exact h.clauseAfter?_eq_none hc hf
  have hcolumn : (Text.gap? (' ' :: ("COLUMN".toList ++ ' ' :: (name.print ++
      ' ' :: ("INT".toList ++ r)))) >>= clauseAfter? clause?) = none := hnone rfl rfl rfl
  have hname : (Text.gap? (' ' :: (name.print ++ ' ' :: ("INT".toList ++ r))) >>=
      clauseAfter? clause?) = none :=
    hnone (QualifiedName.skipBlanks_print ⟨[], name⟩ _)
      (QualifiedName.keywordGap?_print (by decide) ⟨[], name⟩ _)
      (QualifiedName.keywordGap?_print (by decide) ⟨[], name⟩ _)
  have htype : (Text.gap? r >>= clauseAfter? clause?) = none := by
    rw [hgap, Option.bind_eq_bind, Option.bind_none]
  rw [Addition.print_column, hword (by decide) rfl hcolumn, hblank, hword (by decide) rfl hname,
    hblank, searchAll_quoted, hblank, hword (by decide) hr htype]

/-- The search through the actions of a statement finds what was added. -/
theorem searchAll_actions (a : Alteration) :
    Text.searchAll (added? clause?) 0 a.actions = a.additions.filterMap Addition.found? := by
  have hread : ∀ b ∈ a.additions, ∀ r, (Text.atWordEnd r = true ∧ Text.gap? r = none) →
      Text.searchAll (added? clause?) 0 (b.print ++ r) =
        b.found?.toList ++ Text.searchAll (added? clause?) 0 r := by
    intro b _ r hr
    cases b with
    | key k =>
      obtain ⟨t, ht⟩ := (Addition.key k).exists_print
      exact searchAll_found (by simp [ht]) ((Addition.key k).added?_print h)
    | column name => exact searchAll_column h name hr.1 hr.2
  have hsep : ∀ r, (Text.atWordEnd ([',', ' '] ++ r) = true ∧ Text.gap? ([',', ' '] ++ r) = none) ∧
      Text.searchAll (added? clause?) 0 ([',', ' '] ++ r) = Text.searchAll (added? clause?) 0 r :=
    fun r => ⟨⟨rfl, rfl⟩, searchAll_figures added?_figure
      (List.forall_mem_cons.mpr ⟨by decide, List.forall_mem_singleton.mpr (by decide)⟩) r⟩
  have hjoin := searchAll_join (r := []) hread hsep ⟨⟨rfl, rfl⟩, rfl⟩
  rw [List.append_nil] at hjoin
  rw [List.filterMap_eq_flatMap_toList]
  exact hjoin

theorem map_searchAll_actions (a : Alteration) :
    ((Text.searchAll (added? clause?) 0 a.actions).map fun found =>
      keyOf a.table.name.word found.1 found.2) = a.keys := by
  rw [searchAll_actions h, List.map_filterMap]
  exact congrArg (a.additions.filterMap ·) (funext fun b => b.map_found? _)

end

/-- Nothing is read without both keywords. -/
theorem alteration?_of_keywords
    (h : (Text.keywordGap? "ALTER" t >>= Text.keywordGap? "TABLE") = none) :
    alteration? t = none := by
  rw [alteration?, alterHeads, h]
  rfl

theorem alteration?_of_keywordGap? (h : Text.keywordGap? "ALTER" t = none) :
    alteration? t = none := by
  apply alteration?_of_keywords
  rw [h, Option.bind_eq_bind, Option.bind_none]

theorem alteration?_figure (hc : isFigure c = true) : alteration? (c :: r) = none :=
  alteration?_of_keywordGap? (keywordGap?_figure (by decide) hc)

theorem searchAll_blanks (hb : Text.allBlank t = true) (r : Text) :
    Text.searchAll alteration? 0 (t ++ r) = Text.searchAll alteration? 0 r :=
  searchAll_figures alteration?_figure (fun c hc =>
    isFigure_of_mark (Text.isWord_of_isBlank (List.all_eq_true.mp hb c hc))) r

namespace Alteration

variable {as : List Alteration} {blanks cleaned : Text} {splitter : Splitter}

/-- A search that comes upon a statement finds it, and goes on behind it. -/
theorem searchAll_print (a : Alteration) (r : Text) :
    Text.searchAll alteration? 0 (a.print ++ r) =
      (a.table.name.word, a.actions) :: Text.searchAll alteration? 0 r :=
  searchAll_found (List.cons_ne_nil _ _) (a.alteration?_print r)

theorem alterations_join (hb : Text.allBlank blanks = true) (as : List Alteration) :
    alterations (Text.join ['\n'] (as.map print) ++ blanks) = as.flatMap keys := by
  have hread : ∀ a ∈ as, ∀ r, True → Text.searchAll alteration? 0 (a.print ++ r) =
      [(a.table.name.word, a.actions)] ++ Text.searchAll alteration? 0 r :=
    fun a _ r _ => a.searchAll_print r
  have hsep : ∀ r, True ∧ Text.searchAll alteration? 0 (['\n'] ++ r) =
      Text.searchAll alteration? 0 r :=
    fun r => ⟨trivial, searchAll_cons (alteration?_figure (by decide))⟩
  have hend : Text.searchAll alteration? 0 blanks = [] := by
    have hpass := searchAll_blanks hb []
    rwa [List.append_nil] at hpass
  have hjoin := searchAll_join hread hsep ⟨trivial, hend⟩
  simp only [alterations, hjoin, List.flatMap_assoc, List.flatMap_singleton,
    map_searchAll_actions readsClauses_readFull?]

theorem closes_print (a : Alteration) : Closes a.print := by
  have hend : Closes (' ' :: (a.actions ++ [';'])) := ⟨' ' :: a.actions, ';', rfl, by decide⟩
  have htable : Closes ("TABLE".toList ++ ' ' :: (a.table.print ++ ' ' :: (a.actions ++ [';']))) :=
    ((hend.after a.table.print).after [' ']).after _
  exact (htable.after [' ']).after _

theorem script_eq (hne : as ≠ []) :
    script as = Text.join ['\n'] (as.map print) ++ ['\n'] := by
  induction as with
  | nil => exact (hne rfl).elim
  | cons a as ih =>
    cases as with
    | nil => simp [script, Text.join]
    | cons b as =>
      have ih := ih (List.cons_ne_nil b as)
      have hscript : script (a :: b :: as) = a.print ++ ['\n'] ++ script (b :: as) :=
        List.flatMap_cons
      rw [hscript, ih]
      simp [Text.join]

/-- The blanks at the end of a script are the line end after its last statement. -/
theorem trimEnd_script (as : List Alteration) :
    Text.trimEnd (script as) = Text.join ['\n'] (as.map print) := by
  have hcloses : ∀ p ∈ as.map print, Closes p := by
    intro p hp
    obtain ⟨a, -, rfl⟩ := List.mem_map.mp hp
    exact a.closes_print
  cases as with
  | nil => rfl
  | cons a as =>
    have hne := List.cons_ne_nil a as
    rw [script_eq hne, (closes_join (by simp) hcloses).trimEnd (by decide)]

/-- Of a script that its cleaning leaves as it was, up to blanks at its end, the search through the
whole text finds the foreign keys that are read statement by statement, whatever blanks a statement
keeps at its end. Both are the ones that were written, with their bare names. -/
theorem recoveredKeys_script (hclean : splitter.clean (script as) = .ok cleaned)
    (htrim : Text.trimEnd cleaned = Text.trimEnd (script as))
    (hb : Text.allBlank blanks = true) :
    recoveredKeys (script as) splitter =
        .ok (as.flatMap fun a => alterTable (a.print ++ blanks)) ∧
      (as.flatMap fun a => alterTable (a.print ++ blanks)) = as.flatMap keys := by
  have hread : (as.flatMap fun a => alterTable (a.print ++ blanks)) = as.flatMap keys :=
    congrArg (as.flatMap ·) (funext fun a => a.alterTable_append hb)
  obtain ⟨rest, hrest, hcleaned⟩ := Text.exists_trimEnd cleaned
  rw [htrim, trimEnd_script] at hcleaned
  rw [hread, recoveredKeys, splitter.cleaned_of_ok hclean, hcleaned]
  exact ⟨congrArg Except.ok (alterations_join hrest as), rfl⟩

/-- A key in all kinds of quotes, and a column whose name is the keyword for additions. -/
def ofTrack : Alteration where
  table := ⟨[⟨.backticks, "music".toList, by decide, by decide⟩],
    ⟨.backticks, "track".toList, by decide, by decide⟩⟩
  first := .key {
    constraint := some ⟨.doubleQuotes, "of".toList, by decide, by decide⟩
    columns := ⟨⟨.doubleQuotes, "artist".toList, by decide, by decide⟩,
      [⟨.brackets, "album".toList, by decide, by decide⟩]⟩
    target := ⟨[], ⟨.brackets, "album".toList, by decide, by decide⟩⟩
    parents := ⟨⟨.doubleQuotes, "artist".toList, by decide, by decide⟩,
      [⟨.backticks, "no".toList, by decide, by decide⟩]⟩ }
  rest := [.column ⟨.backticks, "ADD".toList, by decide, by decide⟩]

/-- A key without a name of its own, which points at a table with a qualifier. -/
def ofAlbum : Alteration where
  table := ⟨[], ⟨.brackets, "album".toList, by decide, by decide⟩⟩
  first := .key {
    constraint := none
    columns := ⟨⟨.backticks, "label".toList, by decide, by decide⟩, []⟩
    target := ⟨[⟨.backticks, "music".toList, by decide, by decide⟩],
      ⟨.doubleQuotes, "label".toList, by decide, by decide⟩⟩
    parents := ⟨⟨.backticks, "no".toList, by decide, by decide⟩, []⟩ }
  rest := []

theorem recoveredKeys_script_track :
    let first : ForeignKey := {
      table := "track".toList, columns := ["artist".toList, "album".toList]
      refTable := "album".toList, refColumns := ["artist".toList, "no".toList]
      constraintName := some "of".toList }
    let second : ForeignKey := {
      table := "album".toList, columns := ["label".toList]
      refTable := "label".toList, refColumns := ["no".toList]
      constraintName := none }
    script [ofTrack, ofAlbum] =
      ("ALTER TABLE `music`.`track` ADD CONSTRAINT \"of\" FOREIGN KEY (\"artist\", [album]) " ++
        "REFERENCES [album] (\"artist\", `no`), ADD COLUMN `ADD` INT;\n" ++
        "ALTER TABLE [album] ADD FOREIGN KEY (`label`) " ++
        "REFERENCES `music`.\"label\" (`no`);\n").toList ∧
    recoveredKeys (script [ofTrack, ofAlbum]) = .ok [first, second] ∧
    ([ofTrack, ofAlbum].flatMap fun a => alterTable (a.print ++ ['\n'])) = [first, second] := by
  intro first second
  have hclean : ({} : Splitter).clean (script [ofTrack, ofAlbum]) =
      .ok (Text.trimEnd (script [ofTrack, ofAlbum])) :=
    eq_ok_of_toOption (by decide +kernel)
  have htrim : Text.trimEnd (Text.trimEnd (script [ofTrack, ofAlbum])) =
      Text.trimEnd (script [ofTrack, ofAlbum]) := by decide +kernel
  have hline : Text.allBlank ['\n'] = true := by decide
  obtain ⟨hsearch, hread⟩ := recoveredKeys_script hclean htrim hline
  refine ⟨by simp only [String.toList_append]; decide +kernel, ?_, hread⟩
  rw [hsearch, hread]
  rfl

end Alteration
end SchemaDiagram.Sql
