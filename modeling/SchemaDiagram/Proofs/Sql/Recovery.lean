import SchemaDiagram.Proofs.Schema.Repetition
import SchemaDiagram.Proofs.Sql.Borders

/-!
The second look at a script. Where every place that looks like the start of a statement that changes
a table is one, the search finds the clauses of each such statement for its own table. They are
folded in last and win; where they are the clauses that were read before, they change nothing.
-/
namespace SchemaDiagram

open Sql

variable {α : Type} {t r : Text} {script : Text} {found : Declarations}
  {readers : Readers}

namespace Sql

/-- A search passes over a text in which nothing is read, wherever in it the search goes on. -/
theorem searchAll_pass {read : Text → Option (α × Text)} {skip : Nat} (hs : skip ≤ t.length)
    (h : ∀ i < t.length, read ((t ++ r).drop i) = none) :
    Text.searchAll read skip (t ++ r) = Text.searchAll read 0 r := by
  induction t generalizing skip with
  | nil =>
    obtain rfl := Nat.le_zero.mp hs
    rfl
  | cons c t ih =>
    have hrest : ∀ i < t.length, read ((t ++ r).drop i) = none := fun i hi =>
      h (i + 1) (Nat.succ_lt_succ hi)
    cases skip with
    | zero =>
      have hnone : read (c :: (t ++ r)) = none := h 0 (Nat.zero_lt_succ _)
      exact (searchAll_cons hnone).trans (ih (Nat.zero_le _) hrest)
    | succ skip => exact ih (Nat.le_of_succ_le_succ hs) hrest

/-- An answer at the start of a text that stays within it is the only one, where nothing is read at
the later places. -/
theorem searchAll_first {read : Text → Option (α × Text)} {answer : Option (α × Text)}
    (hne : t ≠ []) (hread : read (t ++ r) = answer.map fun found => (found.1, found.2 ++ r))
    (h : ∀ i < t.length, i ≠ 0 → read ((t ++ r).drop i) = none) :
    Text.searchAll read 0 (t ++ r) =
      (answer.map Prod.fst).toList ++ Text.searchAll read 0 r := by
  obtain ⟨c, t, rfl⟩ := List.exists_cons_of_ne_nil hne
  have hrest : ∀ i < t.length, read ((t ++ r).drop i) = none := fun i hi =>
    h (i + 1) (Nat.succ_lt_succ hi) (Nat.succ_ne_zero i)
  rw [List.cons_append] at hread ⊢
  cases answer with
  | none => exact (searchAll_cons hread).trans (searchAll_pass (Nat.zero_le _) hrest)
  | some found =>
    rw [Option.map_some] at hread
    have hskip : (t ++ r).length - (found.2 ++ r).length ≤ t.length := by
      rw [List.length_append, List.length_append]
      omega
    simp only [Text.searchAll, hread, searchAll_pass hskip hrest]
    rfl

/-- A text starts like a statement that changes a table. -/
def startsAlteration (t : Text) : Bool :=
  (Text.keywordGap? "ALTER" t >>= Text.keywordGap? "TABLE").isSome

theorem alteration?_eq_none (h : startsAlteration t = false) : alteration? t = none :=
  alteration?_of_keywords (Option.not_isSome_iff_eq_none.mp (Bool.eq_false_iff.mp h))

/-- The foreign keys that a search finds in the actions of a statement on a table. -/
def actionKeys : Text × Text → List ForeignKey := fun (table, actions) =>
  (Text.searchAll (added? KeyClause.readFull?) 0 actions).map fun (name, clause) =>
    keyOf table name clause

/-- Nothing is found in blanks. -/
theorem actionKeys_of_blank {actions : Text} (h : Text.allBlank actions = true) (table : Text) :
    actionKeys (table, actions) = [] := by
  have hfigures : ∀ c ∈ actions, isFigure c = true := fun c hc =>
    isFigure_of_mark (Text.isWord_of_isBlank (List.all_eq_true.mp h c hc))
  have hsearch : Text.searchAll (added? KeyClause.readFull?) 0 (actions ++ []) = [] :=
    searchAll_figures added?_figure hfigures []
  rw [List.append_nil] at hsearch
  rw [actionKeys, hsearch]
  rfl

/-- The foreign keys that are read of a statement. -/
def Outline.declared (o : Outline) : List ForeignKey :=
  match o.kind with
  | .alter => alterTable o.text
  | .create | .other => []

/-- A statement at its place in a script, with the blanks behind it. -/
structure Placed where
  outline : Outline
  blanks : Text
  opens : ∀ c ∈ outline.text.head?, Text.isBlank c = false
  closes : Closes outline.text
  blank : Text.allBlank blanks = true

namespace Placed

def text (p : Placed) : Text := p.outline.text ++ p.blanks

theorem length_pos (p : Placed) : 0 < p.outline.text.length := by
  obtain ⟨u, c, hu, -⟩ := p.closes
  rw [hu, List.length_append]
  exact Nat.lt_add_left _ Nat.one_pos

theorem text_ne_nil (p : Placed) : p.text ≠ [] :=
  List.append_ne_nil_of_left_ne_nil (List.length_pos_iff.mp p.length_pos) p.blanks

/-- Behind the statement there are blanks. -/
theorem exists_drop (p : Placed) {i : Nat} (hi : p.outline.text.length ≤ i)
    (hlt : i < p.text.length) : ∃ c t, p.text.drop i = c :: t ∧ Text.isBlank c = true := by
  have hdrop : p.text.drop i = p.blanks.drop (i - p.outline.text.length) := by
    rw [text, List.drop_append, List.drop_eq_nil_of_le hi, List.nil_append]
  have hne : p.text.drop i ≠ [] := by simpa using hlt
  obtain ⟨c, t, hcons⟩ := List.exists_cons_of_ne_nil hne
  have hc : c ∈ p.blanks := List.mem_of_mem_drop (hdrop ▸ hcons ▸ List.mem_cons_self)
  exact ⟨c, t, hcons, List.all_eq_true.mp p.blank c hc⟩

/-- The foreign keys that a search finds in a statement by itself. -/
def searched (p : Placed) : List ForeignKey :=
  match p.outline.kind with
  | .alter => ((alteration? p.text).map Prod.fst).toList.flatMap actionKeys
  | .create | .other => []

/-- A search finds keys of the table alone that the statement names, which is the one that the keys
are read for. -/
theorem exists_head_of_searched {p : Placed} {key : ForeignKey} (h : key ∈ p.searched) :
    ∃ actions, (alterHeads p.outline.text).head? = some (key.table, actions) := by
  unfold searched at h
  split at h
  · obtain ⟨⟨table, actions⟩, hfound, hkey⟩ := List.mem_flatMap.mp h
    obtain ⟨⟨_, left⟩, hread, rfl⟩ := Option.map_eq_some_iff.mp (Option.mem_toList.mp hfound)
    obtain ⟨⟨table', rest⟩, hhead, hfst⟩ := Option.map_eq_some_iff.mp hread
    obtain ⟨clause, hclause, rfl⟩ := List.mem_map.mp hkey
    cases hfst
    obtain ⟨u, c, hu, hc⟩ := p.closes
    have htext : p.text = u ++ c :: p.blanks := by rw [text, hu, List.append_assoc]; rfl
    rw [htext] at hhead
    have hmore : p.blanks.length < rest.length := by
      refine Nat.lt_of_not_le fun hle => ?_
      have hsuffix : rest <:+ p.blanks := List.suffix_of_suffix_length_le
        (alterHeads_suffix (List.mem_of_mem_head? hhead)) ⟨u ++ [c], by simp⟩ hle
      have hblank : Text.allBlank (untilSemicolon rest).1 = true :=
        List.all_eq_true.mpr fun d hd => List.all_eq_true.mp p.blank d
          (hsuffix.subset ((untilSemicolon_start rest).subset hd))
      have hnone := actionKeys_of_blank hblank table
      rw [actionKeys, List.map_eq_nil_iff] at hnone
      rw [hnone] at hclause
      cases hclause
    obtain ⟨own, hown, -⟩ := head?_alterHeads_border hc hhead hmore
    refine ⟨own ++ [c], ?_⟩
    rw [hu, alterHeads_concat hc, List.head?_map, hown]
    rfl
  · cases h
  · cases h

end Placed

variable {placed : List Placed} {blanks : Text}

/-- Some statements one after the other. -/
def scriptOf (placed : List Placed) : Text := placed.flatMap Placed.text

theorem scriptOf_cons (p : Placed) (placed : List Placed) :
    scriptOf (p :: placed) = p.text ++ scriptOf placed := List.flatMap_cons

theorem not_blank_of_scriptOf : ∀ c ∈ (scriptOf placed).head?, Text.isBlank c = false := by
  cases placed with
  | nil => rintro c ⟨⟩
  | cons p placed =>
    intro c hc
    have hne : p.outline.text ≠ [] := List.length_pos_iff.mp p.length_pos
    rw [scriptOf_cons, Placed.text, List.append_assoc, List.head?_append_of_ne_nil _ hne] at hc
    exact p.opens c hc

/-- What looks like the start of a statement that changes a table is the start of one. -/
def StartsStatements : List Placed → Prop
  | [] => True
  | p :: placed => (∀ i < p.outline.text.length,
      startsAlteration ((scriptOf (p :: placed)).drop i) = true →
        i = 0 ∧ p.outline.kind = .alter) ∧ StartsStatements placed

/-- A search that starts with a statement ends before the next one. -/
def EndsBeforeNext : List Placed → Prop
  | [] => True
  | p :: placed => (∀ f ∈ alteration? (scriptOf (p :: placed)),
      (scriptOf placed).length ≤ f.2.length) ∧ EndsBeforeNext placed

instance decidableStartsStatements : (placed : List Placed) → Decidable (StartsStatements placed)
  | [] => isTrue trivial
  | _ :: placed =>
    have := decidableStartsStatements placed
    inferInstanceAs (Decidable (_ ∧ _))

instance decidableEndsBeforeNext : (placed : List Placed) → Decidable (EndsBeforeNext placed)
  | [] => isTrue trivial
  | _ :: placed =>
    have := decidableEndsBeforeNext placed
    inferInstanceAs (Decidable (_ ∧ _))

/-- What a search reads at the start of a statement it reads of the statement alone. -/
theorem alteration?_scriptOf {p : Placed} (h : EndsBeforeNext (p :: placed)) :
    alteration? (p.text ++ scriptOf placed) =
      (alteration? p.text).map fun f => (f.1, f.2 ++ scriptOf placed) := by
  have hends := h.1
  rw [scriptOf_cons] at hends
  cases hrest : scriptOf placed with
  | nil => simp
  | cons c r =>
    rw [hrest] at hends
    exact alteration?_border (not_blank_of_scriptOf c (by rw [hrest]; rfl)) hends

/-- Nothing else starts in a statement or in the blanks behind it. -/
theorem alteration?_later {p : Placed} (h : StartsStatements (p :: placed)) {i : Nat}
    (hi : i < p.text.length) (hne : i ≠ 0) :
    alteration? ((p.text ++ scriptOf placed).drop i) = none := by
  by_cases hin : i < p.outline.text.length
  · refine alteration?_eq_none (Bool.eq_false_iff.mpr fun hs => hne (h.1 i hin ?_).1)
    rwa [scriptOf_cons]
  · obtain ⟨c, t, hdrop, hc⟩ := p.exists_drop (Nat.le_of_not_lt hin) hi
    rw [List.drop_append_of_le_length hi.le, hdrop]
    exact alteration?_figure (isFigure_of_mark (Text.isWord_of_isBlank hc))

/-- The search through a script finds what it finds in one statement after the other. -/
theorem alterations_scriptOf (hstarts : StartsStatements placed) (hends : EndsBeforeNext placed) :
    alterations (scriptOf placed) = placed.flatMap Placed.searched := by
  change (Text.searchAll alteration? 0 (scriptOf placed)).flatMap actionKeys = _
  induction placed with
  | nil => rfl
  | cons p placed ih =>
    have hlater : ∀ i < p.text.length, i ≠ 0 →
        alteration? ((p.text ++ scriptOf placed).drop i) = none := fun i hi hne =>
      alteration?_later hstarts hi hne
    rw [scriptOf_cons, List.flatMap_cons, ← ih hstarts.2 hends.2]
    cases hk : p.outline.kind with
    | alter =>
      rw [searchAll_first p.text_ne_nil (alteration?_scriptOf hends) hlater, List.flatMap_append,
        Placed.searched, hk]
    | create | other =>
      have hfirst : alteration? (p.text ++ scriptOf placed) =
          (none : Option ((Text × Text) × Text)).map fun f => (f.1, f.2 ++ scriptOf placed) := by
        refine alteration?_eq_none (Bool.eq_false_iff.mpr fun hs => ?_)
        have hkind := (hstarts.1 0 p.length_pos hs).2
        rw [hk] at hkind
        cases hkind
      rw [searchAll_first p.text_ne_nil hfirst hlater, Placed.searched, hk]
      rfl

/-- One more statement adds its own keys, and no primary key apart from its table. -/
theorem keys_of_declareStatement {before after : Declarations} {o : Outline}
    (h : declareStatement before o = .ok after) :
    after.foreignKeys = before.foreignKeys ++ o.declared ∧
      after.primaryKeys = before.primaryKeys := by
  unfold Outline.declared
  unfold declareStatement at h
  split at h
  · next hk =>
    cases hc : createTable o.text with
    | error fault =>
      rw [hc] at h
      cases h
    | ok table? =>
      rw [hc] at h
      cases h
      simp [hk]
  · next hk =>
    cases h
    simp [hk]
  · next hk =>
    cases h
    simp [hk]

/-- The keys that a script declares are read statement by statement. -/
theorem keys_of_foldlM {before : Declarations} {outlines : List Outline}
    (h : outlines.foldlM declareStatement before = .ok found) :
    found.foreignKeys = before.foreignKeys ++ outlines.flatMap Outline.declared ∧
      found.primaryKeys = before.primaryKeys := by
  induction outlines generalizing before with
  | nil =>
    cases h
    simp
  | cons o os ih =>
    rw [List.foldlM_cons] at h
    cases hstep : declareStatement before o with
    | error fault =>
      rw [hstep] at h
      cases h
    | ok after =>
      rw [hstep] at h
      obtain ⟨hforeign, hprimary⟩ := ih h
      obtain ⟨hforeign', hprimary'⟩ := keys_of_declareStatement hstep
      rw [hforeign, hprimary, hforeign', hprimary', List.flatMap_cons, List.append_assoc]
      exact ⟨rfl, rfl⟩

end Sql

/-- What a schema gets of a script in which nothing but statements looks like one that changes a
table and no search goes on into the next statement. The search gives keys to no other table than
reading does. It changes nothing exactly where every column already points where its last clause
says, as when each statement has the same clauses for the search as for reading. -/
theorem Building.addScript_searched (s : Schema)
    (hd : Engine.scanner.handles (Dialect.detect script) = true)
    (hclean : readers.splitter.clean script = .ok (blanks ++ scriptOf placed))
    (hsplit : readers.splitter.split (blanks ++ scriptOf placed) =
      .ok (placed.map Placed.outline))
    (hread : Engine.scanner.read script readers = .ok found)
    (hblanks : Text.allBlank blanks = true) (hstarts : StartsStatements placed)
    (hends : EndsBeforeNext placed) :
    let declared := (s ++ found.tables : Schema).applyForeignKeys found.foreignKeys
    let searched := placed.flatMap Placed.searched
    (addScript Engine.all script readers).run s =
        (.ok found.tables.length, declared.applyForeignKeys searched) ∧
      found.foreignKeys = placed.flatMap (·.outline.declared) ∧
      (∀ p ∈ placed, ∀ key ∈ p.searched,
        ∃ actions, (alterHeads p.outline.text).head? = some (key.table, actions)) ∧
      (declared.applyForeignKeys searched = declared ↔
        declared.Settled (searched.flatMap ForeignKey.keyPairs)) ∧
      ((∀ p ∈ placed, p.searched.flatMap ForeignKey.keyPairs =
          p.outline.declared.flatMap ForeignKey.keyPairs) →
        declared.applyForeignKeys searched = declared) := by
  intro declared searched
  obtain ⟨hkeys, hprimary⟩ :=
    keys_of_foldlM ((Engine.read_of_split hclean hsplit).symm.trans hread)
  have hforeign : found.foreignKeys = placed.flatMap (·.outline.declared) := by
    rw [hkeys, List.flatMap_map]
    rfl
  have hsearch : alterations (blanks ++ scriptOf placed) = searched := by
    rw [alterations, searchAll_blanks hblanks]
    exact alterations_scriptOf hstarts hends
  have hrecover : Engine.scanner.recover script readers = .ok searched :=
    (Engine.recover_of_clean hclean).trans (congrArg Except.ok hsearch)
  have hextend : s.extend found searched = declared.applyForeignKeys searched := by
    rw [Schema.extend, hprimary]
    rfl
  refine ⟨?_, hforeign, fun p _ key hkey => Placed.exists_head_of_searched hkey,
    Schema.applyForeignKeys_eq_self_iff, fun hsame => ?_⟩
  · rw [addScript_of_read (Engine.pick_scanner hd) hread hrecover, hextend]
  · have hpairs : searched.flatMap ForeignKey.keyPairs =
        found.foreignKeys.flatMap ForeignKey.keyPairs := by
      rw [hforeign, List.flatMap_assoc, List.flatMap_assoc]
      exact List.flatMap_congr hsame
    rw [Schema.applyForeignKeys_eq_self_iff, hpairs]
    exact Schema.settled_applyForeignKeys _ _

namespace Sql.Placed

/-- A statement that creates a table of one column. -/
def ofColumn : Placed :=
  ⟨⟨.create, "CREATE TABLE a (x INT UNSIGNED);".toList⟩, ['\n'], by rintro c ⟨⟩; rfl,
    by decide, rfl⟩

/-- A statement that points the column somewhere. -/
def ofKey : Placed :=
  ⟨⟨.alter, "ALTER TABLE a ADD FOREIGN KEY (x) REFERENCES p (i);".toList⟩, ['\n'],
    by rintro c ⟨⟩; rfl, by decide, rfl⟩

/-- The last statement of a script, without a semicolon and in front of blank lines. -/
def ofLastKey : Placed :=
  ⟨⟨.alter, "ALTER TABLE a ADD FOREIGN KEY (x) REFERENCES p (i)".toList⟩, ['\n', '\n'],
    by rintro c ⟨⟩; rfl, by decide, rfl⟩

/-- A statement that points it elsewhere without a list of columns, which a search wants. -/
def ofShortKey : Placed :=
  ⟨⟨.alter, "ALTER TABLE a ADD FOREIGN KEY (x) REFERENCES q;".toList⟩, [], by rintro c ⟨⟩; rfl,
    by decide, rfl⟩

/-- A statement that creates a table of two columns. -/
def ofColumns : Placed :=
  ⟨⟨.create, "CREATE TABLE a (x INT UNSIGNED, y INT);".toList⟩, ['\n'], by rintro c ⟨⟩; rfl,
    by decide, rfl⟩

/-- A statement that points one of them somewhere and ends at the separator of a batch. -/
def ofBatch : Placed :=
  ⟨⟨.alter, "ALTER TABLE a ADD FOREIGN KEY (x) REFERENCES p (i)\nGO".toList⟩, ['\n'],
    by rintro c ⟨⟩; rfl, by decide, rfl⟩

/-- A statement that points a column of another table somewhere. -/
def ofOtherKey : Placed :=
  ⟨⟨.alter, "ALTER TABLE b ADD FOREIGN KEY (y) REFERENCES q (j);".toList⟩, [],
    by rintro c ⟨⟩; rfl, by decide, rfl⟩

end Sql.Placed

theorem Building.addScript_searched_key :
    let script := scriptOf [.ofColumn, .ofLastKey]
    ∃ t, (addScript Engine.all script).run [] = (.ok 1, [t]) ∧
      (t.column? "x".toList).bind (·.reference) = some ⟨"p".toList, "i".toList⟩ := by
  intro script
  have hclean : ({} : Splitter).clean script = .ok ([] ++ scriptOf [.ofColumn, .ofLastKey]) :=
    eq_ok_of_toOption (by decide +kernel)
  have hsplit : ({} : Splitter).split ([] ++ scriptOf [.ofColumn, .ofLastKey]) =
      .ok ([Placed.ofColumn, .ofLastKey].map Placed.outline) :=
    eq_ok_of_toOption (by decide +kernel)
  have hread : Engine.scanner.read script = .ok {
      tables := [⟨"a".toList, [{ name := "x".toList, type := "INT UNSIGNED".toList }]⟩]
      foreignKeys := [⟨"a".toList, ["x".toList], "p".toList, ["i".toList], none⟩] } :=
    (Engine.read_of_split hclean hsplit).trans (eq_ok_of_toOption (by decide +kernel))
  have hkeys : ∀ p ∈ [Placed.ofColumn, .ofLastKey], p.searched = p.outline.declared := by
    decide +kernel
  obtain ⟨hrun, -, -, -, hsame⟩ := addScript_searched [] (by decide +kernel) hclean hsplit hread rfl
    (by decide +kernel) (by decide +kernel)
  rw [hsame fun p hp => by rw [hkeys p hp]] at hrun
  exact ⟨_, hrun, by decide +kernel⟩

/-- An empty schema gets something else of the statements than the keys that reading finds, though
nothing but statements looks like one that changes a table. -/
def Building.SearchChanges (placed : List Placed) : Prop :=
  let script := scriptOf placed
  Engine.scanner.handles (Dialect.detect script) = true ∧
    ({} : Splitter).clean script = .ok script ∧
    ({} : Splitter).split script = .ok (placed.map Placed.outline) ∧
    StartsStatements placed ∧
    ∃ found after, Engine.scanner.read script = .ok found ∧
      (addScript Engine.all script).run [] = (.ok found.tables.length, after) ∧
      after ≠ Schema.applyForeignKeys found.tables found.foreignKeys

theorem Building.searchChanges_of_alterations {keys : List ForeignKey}
    (hd : Engine.scanner.handles (Dialect.detect (scriptOf placed)) = true)
    (hclean : ({} : Splitter).clean (scriptOf placed) = .ok (scriptOf placed))
    (hsplit : ({} : Splitter).split (scriptOf placed) = .ok (placed.map Placed.outline))
    (hstarts : StartsStatements placed)
    (hread : (placed.map Placed.outline).foldlM declareStatement {} = .ok found)
    (hkeys : alterations (scriptOf placed) = keys)
    (hchange : Schema.extend [] found keys ≠
      Schema.applyForeignKeys found.tables found.foreignKeys) : SearchChanges placed := by
  have hread' : Engine.scanner.read (scriptOf placed) = .ok found :=
    (Engine.read_of_split hclean hsplit).trans hread
  have hrun := addScript_of_read (s := []) (Engine.pick_scanner hd) hread'
    ((Engine.recover_of_clean hclean).trans (congrArg Except.ok hkeys))
  exact ⟨hd, hclean, hsplit, hstarts, _, _, hread', hrun, hchange⟩

/-- A clause that reading alone understands loses against an earlier one for its column. A search
that goes on into the next statement takes the clauses there for ones of its own table. -/
theorem Building.addScript_searched_first :
    (SearchChanges [.ofColumn, .ofKey, .ofShortKey] ∧
      EndsBeforeNext [.ofColumn, .ofKey, .ofShortKey]) ∧
    SearchChanges [.ofColumns, .ofBatch, .ofOtherKey] ∧
      ¬ EndsBeforeNext [.ofColumns, .ofBatch, .ofOtherKey] := by
  have hshort : SearchChanges [.ofColumn, .ofKey, .ofShortKey] := by
    have hread : ([Placed.ofColumn, .ofKey, .ofShortKey].map Placed.outline).foldlM
        declareStatement {} = .ok {
          tables := [⟨"a".toList, [{ name := "x".toList, type := "INT UNSIGNED".toList }]⟩]
          foreignKeys := [⟨"a".toList, ["x".toList], "p".toList, ["i".toList], none⟩,
            ⟨"a".toList, ["x".toList], "q".toList, [], none⟩] } :=
      eq_ok_of_toOption (by decide +kernel)
    have hkeys : alterations (scriptOf [.ofColumn, .ofKey, .ofShortKey]) =
        [⟨"a".toList, ["x".toList], "p".toList, ["i".toList], none⟩] := by decide +kernel
    exact searchChanges_of_alterations (by decide +kernel)
      (eq_ok_of_toOption (by decide +kernel)) (eq_ok_of_toOption (by decide +kernel))
      (by decide +kernel) hread hkeys (by decide +kernel)
  have hbatch : SearchChanges [.ofColumns, .ofBatch, .ofOtherKey] := by
    have hread : ([Placed.ofColumns, .ofBatch, .ofOtherKey].map Placed.outline).foldlM
        declareStatement {} = .ok {
          tables := [⟨"a".toList, [{ name := "x".toList, type := "INT UNSIGNED".toList },
            { name := "y".toList, type := "INT".toList }]⟩]
          foreignKeys := [⟨"a".toList, ["x".toList], "p".toList, ["i".toList], none⟩,
            ⟨"b".toList, ["y".toList], "q".toList, ["j".toList], none⟩] } :=
      eq_ok_of_toOption (by decide +kernel)
    have hkeys : alterations (scriptOf [.ofColumns, .ofBatch, .ofOtherKey]) =
        [⟨"a".toList, ["x".toList], "p".toList, ["i".toList], none⟩,
          ⟨"a".toList, ["y".toList], "q".toList, ["j".toList], none⟩] := by decide +kernel
    exact searchChanges_of_alterations (by decide +kernel)
      (eq_ok_of_toOption (by decide +kernel)) (eq_ok_of_toOption (by decide +kernel))
      (by decide +kernel) hread hkeys (by decide +kernel)
  exact ⟨⟨hshort, by decide +kernel⟩, hbatch, by decide +kernel⟩

end SchemaDiagram
