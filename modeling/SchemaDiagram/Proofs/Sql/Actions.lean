import SchemaDiagram.Proofs.Sql.Altering

/-!
Reading one statement that changes a table. Its actions are cut at the commas between the additions
only, so that each addition is read by itself.
-/
namespace SchemaDiagram.Sql

/-- A scan comes out of the text as it went in; no blank ends it, and it holds no semicolon. -/
structure IsPiece (t : Text) : Prop where
  passes : Scan.Over (Scan.level 0) t (Scan.level 0)
  closes : Closes t
  noEnd : ';' ∉ t

variable {t r w : Text} {ps : List Text}

theorem isPiece_plain (hne : w ≠ []) (hw : Text.Plain w) : IsPiece w where
  passes := Scan.over_plain rfl (by decide) hw
  closes := closes_plain hne hw
  noEnd := hw.not_mem (by decide)

theorem isPiece_keyword {k : Text} (hk : IsKeyword k) : IsPiece k := isPiece_plain hk.1 hk.plain

theorem isPiece_qualified (n : QualifiedName) : IsPiece n.print where
  passes := Scan.over_qualified (by decide) n
  closes := by
    have hname : Closes n.name.print :=
      ⟨n.name.quotes.opener :: n.name.word, _, rfl, n.name.quotes.isBlank_closer⟩
    exact hname.after _
  noEnd := n.not_mem_print (by decide) (by intro q; cases q <;> decide) (by decide)

theorem isPiece_name (n : QuotedName) : IsPiece n.print := isPiece_qualified ⟨[], n⟩

theorem isPiece_list (l : NameList) : IsPiece ('(' :: (l.print ++ [')'])) where
  passes := by
    have hsep : Scan.Over (Scan.level 1) [',', ' '] (Scan.level 1) := by
      refine Scan.over_still rfl (by decide) ?_ fun _ => rfl
      exact List.forall_mem_cons.mpr ⟨rfl, List.forall_mem_singleton.mpr rfl⟩
    apply Scan.over_parentheses (by decide)
    apply Scan.over_join hsep
    intro p hp
    obtain ⟨n, -, rfl⟩ := List.mem_map.mp hp
    exact Scan.over_around n.quotes (by decide) n.plain
  closes := ⟨'(' :: l.print, ')', rfl, by decide⟩
  noEnd := by
    have hlist : ';' ∉ l.print :=
      l.not_mem_print (by decide) (by intro q; cases q <;> decide) (by decide)
    simp [hlist]

theorem isPiece_join {sep : Text} (hs : Scan.Over (Scan.level 0) sep (Scan.level 0))
    (hsep : ';' ∉ sep) (hne : ps ≠ []) (hp : ∀ p ∈ ps, IsPiece p) :
    IsPiece (Text.join sep ps) where
  passes := Scan.over_join hs fun p hm => (hp p hm).passes
  closes := closes_join hne fun p hm => (hp p hm).closes
  noEnd := Text.not_mem_join hsep fun p hm => (hp p hm).noEnd

theorem KeyAddition.isPiece_clauseWords (k : KeyAddition) : ∀ w ∈ k.clauseWords, IsPiece w := by
  simp only [clauseWords, targetWords, List.forall_mem_cons]
  exact ⟨isPiece_keyword (by decide), isPiece_keyword (by decide), isPiece_list k.columns,
    isPiece_keyword (by decide), isPiece_qualified k.target, isPiece_list k.parents, by simp⟩

namespace Addition

variable (a : Addition)

theorem isPiece_words : ∀ w ∈ a.words, IsPiece w := by
  have hadd : IsPiece "ADD".toList := isPiece_keyword (by decide)
  cases a with
  | key k =>
    have hnaming : ∀ w ∈ k.naming, IsPiece w := by
      unfold KeyAddition.naming
      split
      · next name _ =>
        exact List.forall_mem_cons.mpr
          ⟨isPiece_keyword (by decide), List.forall_mem_singleton.mpr (isPiece_name name)⟩
      · simp
    exact List.forall_mem_cons.mpr
      ⟨hadd, List.forall_mem_append.mpr ⟨hnaming, k.isPiece_clauseWords⟩⟩
  | column name =>
    simp only [words, List.forall_mem_cons]
    exact ⟨hadd, isPiece_keyword (by decide), isPiece_name name, isPiece_keyword (by decide),
      by simp⟩

theorem exists_words : ∃ words, a.words = "ADD".toList :: words := by
  cases a <;> exact ⟨_, rfl⟩

theorem isPiece_print : IsPiece a.print := by
  obtain ⟨words, hwords⟩ := a.exists_words
  have hne : a.words ≠ [] := by simp [hwords]
  exact isPiece_join (Scan.over_mark rfl (by decide) rfl (by decide)) (by decide) hne
    a.isPiece_words

/-- An addition starts with the keyword for additions. -/
theorem exists_print : ∃ t, a.print = "ADD".toList ++ t := by
  obtain ⟨words, hwords⟩ := a.exists_words
  rw [print, hwords]
  exact Text.exists_join _ _ _

theorem isTrim_print : IsTrim a.print := by
  obtain ⟨t, ht⟩ := a.exists_print
  have hcloses := a.isPiece_print.closes
  rw [ht] at hcloses ⊢
  exact hcloses.isTrim (by decide) (List.cons_ne_nil _ _)

end Addition

theorem withoutSemicolon_append {blanks : Text} (t : Text) (hb : Text.allBlank blanks = true) :
    withoutSemicolon (t ++ ';' :: blanks) = t := by
  rw [withoutSemicolon, Text.trimEnd_append hb (by decide), List.reverse_append]
  exact List.reverse_reverse t

theorem untilSemicolon_append {t : Text} (h : ';' ∉ t) (r : Text) :
    untilSemicolon (t ++ ';' :: r) = (t, r) := by
  induction t with
  | nil => rfl
  | cons c t ih =>
    obtain ⟨hc, ht⟩ := not_or.mp (mt List.mem_cons.mpr h)
    rw [List.cons_append, untilSemicolon, ih ht]
    · rintro rfl
      exact hc rfl
    · simp

namespace Alteration

variable (a : Alteration)

/-- The additions are read action by action. -/
theorem parts_actions : parts a.actions = a.additions.map Addition.print := by
  apply parts_join
  intro p hp
  obtain ⟨b, -, rfl⟩ := List.mem_map.mp hp
  exact ⟨b.isPiece_print.passes, b.isTrim_print⟩

theorem noEnd_actions : ';' ∉ a.actions := by
  apply Text.not_mem_join (by decide)
  intro p hp
  obtain ⟨b, -, rfl⟩ := List.mem_map.mp hp
  exact b.isPiece_print.noEnd

theorem exists_actions : ∃ t, a.actions = 'A' :: t := by
  obtain ⟨r, hr⟩ := Text.exists_join [',', ' '] a.first.print (a.rest.map Addition.print)
  obtain ⟨t, ht⟩ := a.first.exists_print
  exact ⟨_, hr.trans (congrArg (· ++ r) ht)⟩

theorem print_append (r : Text) : a.print ++ r = "ALTER".toList ++ ' ' :: ("TABLE".toList ++
    ' ' :: (a.table.print ++ ' ' :: (a.actions ++ ';' :: r))) := by
  unfold print
  generalize "ALTER".toList = alter
  generalize "TABLE".toList = table
  simp

/-- The table is read with its qualifiers; the quotes rule the optional keywords out. -/
theorem head?_alterHeads (r : Text) :
    (alterHeads (a.print ++ r)).head? = some (a.table.name.word, a.actions ++ ';' :: r) := by
  obtain ⟨t, ht⟩ := a.exists_actions
  have hdot : dot? (' ' :: (a.actions ++ ';' :: r)) = none := by
    rw [ht]
    rfl
  have hname := a.table.head?_qualified_print hdot
  have honly : Text.keywordGap? "ONLY" (a.table.print ++ ' ' :: (a.actions ++ ';' :: r)) = none :=
    a.table.keywordGap?_print (by decide) _
  have hexists : ifExists? (a.table.print ++ ' ' :: (a.actions ++ ';' :: r)) = none := by
    have hif : Text.keywordGap? "IF" (a.table.print ++ ' ' :: (a.actions ++ ';' :: r)) = none :=
      a.table.keywordGap?_print (by decide) _
    rw [ifExists?, hif, Option.bind_eq_bind, Option.bind_none]
  rw [print_append, alterHeads, keywordGap?_keyword (by decide) rfl, Option.bind_eq_bind,
    Option.bind_some, keywordGap?_keyword (by decide) (a.table.skipBlanks_print _)]
  simp only [Text.optionally, honly, hexists, Option.toList_none, List.nil_append,
    List.flatMap_singleton, List.head?_filterMap]
  apply findSome?_of_head? hname
  rw [Text.gap?_blank, a.table.name.unquote_print, ht]
  rfl

/-- A statement is read as the foreign keys that were written, whatever blanks follow it. -/
theorem alterTable_append {blanks : Text} (hb : Text.allBlank blanks = true) :
    alterTable (a.print ++ blanks) = a.keys := by
  obtain ⟨rest, hheads⟩ := List.head?_eq_some_iff.mp (a.head?_alterHeads blanks)
  have hread : ∀ b : Addition, ((added? KeyClause.read? b.print).map fun found =>
      keyOf a.table.name.word found.1.1 found.1.2) = b.key? a.table.name.word := by
    intro b
    have hprint := b.added?_print (r := []) readsClauses_read?
    rw [List.append_nil] at hprint
    rw [hprint, Option.map_map, ← b.map_found?]
    rfl
  simp only [alterTable, hheads, withoutSemicolon_append _ hb, a.parts_actions, List.filterMap_map]
  exact congrArg (a.additions.filterMap ·) (funext hread)

/-- A search that stands before a statement finds the table and the actions up to the semicolon. -/
theorem alteration?_print (r : Text) :
    alteration? (a.print ++ r) = some ((a.table.name.word, a.actions), r) := by
  simp only [alteration?, a.head?_alterHeads, Option.map_some,
    untilSemicolon_append a.noEnd_actions]

end Alteration
end SchemaDiagram.Sql
