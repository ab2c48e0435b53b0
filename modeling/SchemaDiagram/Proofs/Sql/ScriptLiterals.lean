import SchemaDiagram.Proofs.Sql.Contents
import SchemaDiagram.Proofs.Sql.Recovery

/-!
Literals in a script. The search for statements that change tables pays no heed to quotes: in front
of a literal it finds what it finds there alone, and it goes on in the content of the literal as it
does anywhere else. So two contents in which no such statement starts make no difference.
-/
namespace SchemaDiagram.Sql

variable {α : Type} {t r before content after : Text}

/-- A search in which no answer takes anything of what follows is one search for each part. -/
theorem searchAll_append {read : Text → Option (α × Text)} {skip : Nat} (hs : skip ≤ t.length)
    (h : ∀ i < t.length, read (t.drop i ++ r) = (read (t.drop i)).map fun f => (f.1, f.2 ++ r)) :
    Text.searchAll read skip (t ++ r) = Text.searchAll read skip t ++ Text.searchAll read 0 r := by
  induction t generalizing skip with
  | nil =>
    obtain rfl := Nat.le_zero.mp hs
    rfl
  | cons c t ih =>
    have hrest : ∀ i < t.length,
        read (t.drop i ++ r) = (read (t.drop i)).map fun f => (f.1, f.2 ++ r) := fun i hi =>
      h (i + 1) (Nat.succ_lt_succ hi)
    cases skip with
    | succ skip => exact ih (Nat.le_of_succ_le_succ hs) hrest
    | zero =>
      have hread := h 0 (Nat.zero_lt_succ _)
      rw [List.drop_zero, List.cons_append] at hread
      rw [List.cons_append]
      cases hshort : read (c :: t) with
      | none =>
        rw [hshort] at hread
        rw [searchAll_cons hread, searchAll_cons hshort, ih (Nat.zero_le _) hrest]
      | some f =>
        rw [hshort] at hread
        have hskip : (t ++ r).length - (f.2 ++ r).length = t.length - f.2.length := by
          rw [List.length_append, List.length_append]
          omega
        simp only [Text.searchAll, hread, hshort, Option.map_some, hskip]
        rw [ih (Nat.sub_le _ _) hrest]
        rfl

/-- No statement that starts in the first text takes anything of the second. -/
def AlterationsEnd (t r : Text) : Prop :=
  ∀ i < t.length, ∀ f ∈ alteration? (t.drop i ++ r), r.length ≤ f.2.length

instance (t r : Text) : Decidable (AlterationsEnd t r) :=
  decidable_of_iff (∀ i < t.length,
      (alteration? (t.drop i ++ r)).all (fun f => decide (r.length ≤ f.2.length)) = true)
    (by simp [AlterationsEnd, Option.all_eq_true])

/-- Nowhere in the text does a statement start. -/
def StatesNothing (t : Text) : Prop := ∀ i < t.length, startsAlteration (t.drop i) = false

instance (t : Text) : Decidable (StatesNothing t) :=
  inferInstanceAs (Decidable (∀ i < t.length, _))

theorem searchAll_quote (r : Text) :
    Text.searchAll alteration? 0 ('\'' :: r) = Text.searchAll alteration? 0 r :=
  searchAll_cons (alteration?_figure (by decide))

theorem alterations_quote (h : AlterationsEnd t ('\'' :: r)) :
    alterations (t ++ '\'' :: r) = alterations t ++ alterations r := by
  have hread : ∀ i < t.length, alteration? (t.drop i ++ '\'' :: r) =
      (alteration? (t.drop i)).map fun f => (f.1, f.2 ++ '\'' :: r) := fun i hi =>
    alteration?_border (by decide) fun f hf => h i hi f hf
  unfold alterations
  rw [searchAll_append (Nat.zero_le _) hread, searchAll_quote, List.flatMap_append]

theorem stopsAt_afterAlter? : Text.StopsAt '\'' afterAlter? :=
  (Text.stopsAt_keywordGap? (by decide) (by decide)).bind
    (Text.stopsAt_keywordGap? (by decide) (by decide))

theorem startsAlteration_quote (u r : Text) :
    startsAlteration (u ++ '\'' :: r) = startsAlteration u := by
  have hstops := stopsAt_afterAlter? u r
  rw [startsAlteration, startsAlteration, ← afterAlter?, hstops, Option.isSome_map, afterAlter?]

/-- A content in which no statement starts is passed over with the quote behind it. -/
theorem alterations_content (h : StatesNothing content) (after : Text) :
    alterations (content ++ '\'' :: after) = alterations after := by
  have hnone : ∀ i < content.length, alteration? ((content ++ '\'' :: after).drop i) = none := by
    intro i hi
    rw [List.drop_append_of_le_length hi.le]
    exact alteration?_eq_none ((startsAlteration_quote _ _).trans (h i hi))
  unfold alterations
  rw [searchAll_pass (Nat.zero_le _) hnone, searchAll_quote]

/-- The cleaning keeps a literal as it is, and what it leaves around it is the same for some
contents. -/
def Splitter.Keeps (splitter : Splitter) (before after : Text) (contents : List Text)
    (around : Except Text (Text × Text)) : Prop :=
  ∀ content ∈ contents, splitter.clean (aroundLiteral before content after) =
    around.map fun a => aroundLiteral a.1 content a.2

/-- A search through a script finds the keys in front of a literal that no statement before it
reaches into, and goes on in its content. Where no statement starts in the content the keys behind
the literal are all that come, so any two such contents give the same keys. -/
theorem recoveredKeys_aroundLiteral {splitter : Splitter} {old new : Text}
    {around : Except Text (Text × Text)} (hkeeps : splitter.Keeps before after [old, new] around)
    (hends : ∀ a, around = .ok a → ∀ content ∈ [old, new],
      AlterationsEnd a.1 ('\'' :: (content ++ '\'' :: a.2))) :
    let keys := fun content => recoveredKeys (aroundLiteral before content after) splitter
    (∀ content ∈ [old, new],
      keys content =
          (around.map fun a =>
            alterations a.1 ++ alterations (content ++ '\'' :: a.2)).mapError .unsplit ∧
        (StatesNothing content →
          keys content =
            (around.map fun a => alterations a.1 ++ alterations a.2).mapError .unsplit)) ∧
      (StatesNothing old → StatesNothing new → keys old = keys new) := by
  intro keys
  have hkeys : ∀ content ∈ [old, new], keys content =
      (around.map fun a =>
        alterations a.1 ++ alterations (content ++ '\'' :: a.2)).mapError .unsplit := by
    intro content hcontent
    unfold keys recoveredKeys Splitter.cleaned
    rw [hkeeps content hcontent]
    cases around with
    | error message => rfl
    | ok a => exact congrArg Except.ok (alterations_quote (hends a rfl content hcontent))
  have hnothing : ∀ content ∈ [old, new], StatesNothing content →
      keys content =
        (around.map fun a => alterations a.1 ++ alterations a.2).mapError .unsplit := by
    intro content hcontent hn
    rw [hkeys content hcontent]
    simp only [alterations_content hn]
  refine ⟨fun content hcontent => ⟨hkeys content hcontent, hnothing content hcontent⟩, ?_⟩
  intro hold hnew
  rw [hnothing old (by simp) hold, hnothing new (by simp) hnew]

/-- A literal between two statements that add keys; the words in it do not make a third one. -/
theorem recoveredKeys_aroundLiteral_between :
    let before :=
      "ALTER TABLE a ADD FOREIGN KEY (x) REFERENCES p (i);\nINSERT INTO t VALUES (".toList
    let after := ");\nALTER TABLE b ADD FOREIGN KEY (y) REFERENCES q (j);".toList
    let old := "a note".toList
    let new := "ADD FOREIGN KEY (x) REFERENCES r (k) to ALTER TABLE".toList
    recoveredKeys (aroundLiteral before old after) =
        recoveredKeys (aroundLiteral before new after) ∧
      recoveredKeys (aroundLiteral before new after) =
        .ok [⟨"a".toList, ["x".toList], "p".toList, ["i".toList], none⟩,
          ⟨"b".toList, ["y".toList], "q".toList, ["j".toList], none⟩] := by
  intro before after old new
  have hkeeps : ({} : Splitter).Keeps before after [old, new] (.ok (before, after)) :=
    List.forall_mem_cons.mpr ⟨eq_ok_of_toOption (by decide +kernel),
      List.forall_mem_singleton.mpr (eq_ok_of_toOption (by decide +kernel))⟩
  have hends : ∀ a, (.ok (before, after) : Except Text (Text × Text)) = .ok a →
      ∀ content ∈ [old, new], AlterationsEnd a.1 ('\'' :: (content ++ '\'' :: a.2)) := by
    rintro _ ⟨⟩
    decide +kernel
  obtain ⟨hkeys, hsame⟩ := recoveredKeys_aroundLiteral hkeeps hends
  have hold : StatesNothing old := by decide +kernel
  have hnew : StatesNothing new := by decide +kernel
  refine ⟨hsame hold hnew, ((hkeys new (by simp)).2 hnew).trans ?_⟩
  exact congrArg Except.ok (by decide +kernel)

/-- A content without quotes, backslashes and line ends, which a literal holds as it stands. -/
def IsSimple (content : Text) : Prop :=
  ∀ c ∈ content, isQuote c = false ∧ c ≠ '\\' ∧ Text.isLineEnd c = false

instance (content : Text) : Decidable (IsSimple content) := List.decidableBAll _ content

/-- A literal that no statement reaches into adds a key when a statement is written in it. -/
theorem recoveredKeys_literal_statement :
    let before := "INSERT INTO t VALUES (".toList
    let after := ")".toList
    let old := "a note".toList
    let new := "ALTER TABLE a ADD FOREIGN KEY (b) REFERENCES c (d)".toList
    (∀ content ∈ [old, new], AlterationsEnd before ('\'' :: (content ++ '\'' :: after)) ∧
        ({} : Splitter).clean (aroundLiteral before content after) =
          .ok (aroundLiteral before content after) ∧
        IsSimple content) ∧
      recoveredKeys (aroundLiteral before old after) = .ok [] ∧
      recoveredKeys (aroundLiteral before new after) =
        .ok [⟨"a".toList, ["b".toList], "c".toList, ["d".toList], none⟩] := by
  intro before after old new
  have hold : AlterationsEnd before ('\'' :: (old ++ '\'' :: after)) ∧
      ({} : Splitter).clean (aroundLiteral before old after) =
          .ok (aroundLiteral before old after) ∧
        IsSimple old :=
    ⟨by decide +kernel, eq_ok_of_toOption (by decide +kernel), by decide +kernel⟩
  have hnew : AlterationsEnd before ('\'' :: (new ++ '\'' :: after)) ∧
      ({} : Splitter).clean (aroundLiteral before new after) =
          .ok (aroundLiteral before new after) ∧
        IsSimple new :=
    ⟨by decide +kernel, eq_ok_of_toOption (by decide +kernel), by decide +kernel⟩
  refine ⟨List.forall_mem_cons.mpr ⟨hold, List.forall_mem_singleton.mpr hnew⟩, ?_, ?_⟩
  · exact eq_ok_of_toOption (by decide +kernel)
  · exact eq_ok_of_toOption (by decide +kernel)

end SchemaDiagram.Sql
