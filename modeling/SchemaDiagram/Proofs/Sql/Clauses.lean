import SchemaDiagram.Proofs.Sql.Actions
import SchemaDiagram.Proofs.Sql.Definition

/-!
Definitions of columns whose constraints stand in any order and as often as they are written. Each
search through a definition goes clause by clause and ends at the first one that it is for.
-/
namespace SchemaDiagram.Sql

variable {α β : Type} {find : Text → β} {misses : Text → Prop} {r : Text}

/-- Column names in parentheses; there may be none. -/
def columnList (names : List QuotedName) : Text :=
  '(' :: (Text.join [',', ' '] (names.map QuotedName.print) ++ [')'])

/-- What a reference points at as it is written, with or without a list of columns. -/
structure WrittenTarget where
  table : QualifiedName
  columns : Option (List QuotedName)

namespace WrittenTarget

def words (t : WrittenTarget) : List Text :=
  "REFERENCES".toList :: t.table.print :: (t.columns.map columnList).toList

/-- All names that are written. -/
def names (t : WrittenTarget) : List QuotedName :=
  t.table.scope ++ t.table.name :: t.columns.getD []

def target (t : WrittenTarget) : Target :=
  ⟨t.table.name.word, (t.columns.getD []).map (·.word)⟩

def reference (t : WrittenTarget) : Reference :=
  ⟨t.target.table, t.target.columns.headD impliedColumn⟩

end WrittenTarget

/-- A constraint in the definition of a column. -/
inductive Clause where
  | notNull
  | unique
  | primaryKey
  | default (value : Text)
  | references (target : WrittenTarget)

namespace Clause

def words : Clause → List Text
  | notNull => ["NOT".toList, "NULL".toList]
  | unique => ["UNIQUE".toList]
  | primaryKey => ["PRIMARY".toList, "KEY".toList]
  | default value => ["DEFAULT".toList, value]
  | references target => target.words

/-- The words that stand in no quotes. -/
def bareWords : Clause → List Text
  | references _ => ["REFERENCES".toList]
  | clause => clause.words

def names : Clause → List QuotedName
  | references target => target.names
  | _ => []

def isNotNull : Clause → Bool
  | notNull => true
  | _ => false

def isUnique : Clause → Bool
  | unique => true
  | _ => false

def isPrimaryKey : Clause → Bool
  | primaryKey => true
  | _ => false

def value? : Clause → Option Text
  | default value => some value
  | _ => none

def reference? : Clause → Option Reference
  | references target => some target.reference
  | _ => none

/-- A clause can be written as it is: its default is a plain word, and its names are no keyword
that is looked for in quotes as well. -/
structure Valid (c : Clause) : Prop where
  default : ∀ value, c = .default value → IsDefault value
  names : ∀ n ∈ c.names, IsName n.word

end Clause

/-- The definition of a column. -/
structure Definition where
  name : QuotedName
  type : Text
  clauses : List Clause

namespace Definition

/-- The words of the clauses, in order. -/
def words (d : Definition) : List Text := d.clauses.flatMap Clause.words

def print (d : Definition) : Text := d.name.print ++ ' ' :: (d.type ++ spaced d.words)

/-- The column that is declared. Of several defaults or references the first one counts. -/
def column (d : Definition) : Column where
  name := d.name.word
  type := d.type
  isPrimary := d.clauses.any Clause.isPrimaryKey
  isUnique := d.clauses.any Clause.isUnique
  nullable := !d.clauses.any Clause.isNotNull
  defaultValue := d.clauses.findSome? Clause.value?
  reference := d.clauses.findSome? Clause.reference?

structure Valid (d : Definition) : Prop where
  name : IsName d.name.word
  type : IsType d.type
  clauses : ∀ c ∈ d.clauses, c.Valid

end Definition

theorem columnList_append (names : List QuotedName) (r : Text) :
    columnList names ++ r =
      '(' :: (Text.join [',', ' '] (names.map QuotedName.print) ++ ')' :: r) := by
  simp [columnList]

/-- An empty list is passed over as none. -/
theorem parenthesised?_empty (r : Text) : parenthesised? (columnList [] ++ r) = none := rfl

theorem parenthesised?_columnList {names : List QuotedName} (hne : names ≠ []) (r : Text) :
    ∃ list, parenthesised? (columnList names ++ r) = some (list, r) ∧
      listedNames list = names.map (·.word) := by
  obtain ⟨name, names, rfl⟩ := List.exists_cons_of_ne_nil hne
  rw [columnList_append]
  exact ⟨_, NameList.parenthesised?_print ⟨name, names⟩, NameList.listedNames_print ⟨name, names⟩⟩

theorem isPiece_columnList (names : List QuotedName) : IsPiece (columnList names) := by
  cases names with
  | nil => exact ⟨Scan.over_parentheses (by decide) (Scan.Over.nil _), ⟨['('], ')', rfl, by decide⟩,
      by decide⟩
  | cons name names => exact isPiece_list ⟨name, names⟩

theorem QuotedName.ascii_print (n : QuotedName) : Text.Ascii n.print := by
  have hmarks : n.quotes.opener.toNat < 128 ∧ n.quotes.closer.toNat < 128 := by
    cases n.quotes <;> decide
  refine Text.ascii_append.mpr ⟨Text.ascii_cons.mpr ⟨hmarks.1, n.plain.ascii⟩, ?_⟩
  exact List.forall_mem_singleton.mpr hmarks.2

theorem QualifiedName.ascii_print (n : QualifiedName) : Text.Ascii n.print := by
  refine Text.ascii_append.mpr ⟨?_, n.name.ascii_print⟩
  intro c hc
  obtain ⟨q, -, hc⟩ := List.mem_flatMap.mp hc
  rcases List.mem_append.mp hc with hc | hc
  · exact q.ascii_print c hc
  · obtain rfl := List.mem_singleton.mp hc
    decide

theorem ascii_columnList (names : List QuotedName) : Text.Ascii (columnList names) := by
  have hnames : ∀ p ∈ names.map QuotedName.print, Text.Ascii p := by
    intro p hp
    obtain ⟨n, -, rfl⟩ := List.mem_map.mp hp
    exact n.ascii_print
  have hsep : Text.Ascii [',', ' '] := by decide
  have hjoin : Text.Ascii (Text.join [',', ' '] (names.map QuotedName.print)) :=
    Text.forall_mem_join hsep hnames
  exact Text.ascii_cons.mpr ⟨by decide, Text.ascii_append.mpr ⟨hjoin, by decide⟩⟩

/-- Words with blanks between them are the first word and the others with blanks before them. -/
theorem join_eq_spaced (w : Text) (words : List Text) :
    Text.join [' '] (w :: words) = w ++ spaced words := by
  cases words with
  | nil => simp [Text.join, spaced]
  | cons v words =>
    rw [← blank_join (List.cons_ne_nil v words)]
    exact List.append_assoc _ _ _

theorem spaced_cons (w : Text) (words : List Text) (r : Text) :
    spaced (w :: words) ++ r = ' ' :: (w ++ (spaced words ++ r)) := by
  simp [spaced]

theorem spaced_append (ws vs : List Text) : spaced (ws ++ vs) = spaced ws ++ spaced vs :=
  List.flatMap_append

/-- Behind blanks a text in question has neither a dot nor a parenthesis. -/
theorem Follows.dot? {ok : Text → Prop} (h : Follows ok r) : dot? r = none := by
  rw [Sql.dot?]
  rcases h.skipBlanks with he | ⟨c, t, he, hc⟩
  · simp only [he]
  · have hne := Text.ne_of_isPlain hc (d := '.') (by decide)
    simp only [he]
    split
    · next heq => exact (hne (List.cons.inj heq).1).elim
    · rfl

theorem Follows.parenthesised? {ok : Text → Prop} (h : Follows ok r) :
    parenthesised? (Text.skipBlanks r) = none := by
  rcases h.skipBlanks with he | ⟨c, t, he, hc⟩
  · rw [he]
    rfl
  · have hne := Text.ne_of_isPlain hc (d := '(') (by decide)
    rw [he]
    unfold Sql.parenthesised?
    split
    · next heq => exact (hne (List.cons.inj heq).1).elim
    · rfl

section

variable {table : QualifiedName} {rest list left : Text} (hd : dot? rest = none)

include hd

theorem read?_listed (hl : parenthesised? (Text.skipBlanks rest) = some (list, left)) :
    Target.read? ("REFERENCES".toList ++ ' ' :: (table.print ++ rest)) =
      some (⟨table.name.word, listedNames list⟩, left) := by
  rw [Target.read?, keywordGap?_keyword (by decide) (table.skipBlanks_print _)]
  simp only [Option.bind_eq_bind, Option.bind_some, table.head?_qualified_print hd, hl,
    QuotedName.unquote_print]

theorem read?_unlisted (hl : parenthesised? (Text.skipBlanks rest) = none) :
    Target.read? ("REFERENCES".toList ++ ' ' :: (table.print ++ rest)) =
      some (⟨table.name.word, []⟩, rest) := by
  rw [Target.read?, keywordGap?_keyword (by decide) (table.skipBlanks_print _)]
  simp only [Option.bind_eq_bind, Option.bind_some, table.head?_qualified_print hd, hl,
    QuotedName.unquote_print]

end

/-- What is read of a target is what was written, whatever clauses follow. -/
theorem WrittenTarget.read?_words {ok : Text → Prop} (t : WrittenTarget) (hr : Follows ok r) :
    ∃ left, Target.read? ("REFERENCES".toList ++
      (spaced (t.table.print :: (t.columns.map columnList).toList) ++ r)) =
        some (t.target, left) := by
  obtain ⟨table, columns⟩ := t
  rw [spaced_cons]
  cases columns with
  | none => exact ⟨r, read?_unlisted hr.dot? hr.parenthesised?⟩
  | some names =>
    have hlist : spaced [columnList names] ++ r = ' ' :: (columnList names ++ r) := by simp [spaced]
    have hopen : Text.skipBlanks (' ' :: (columnList names ++ r)) = columnList names ++ r := rfl
    simp only [Option.map_some, Option.toList_some, hlist]
    cases names with
    | nil => exact ⟨_, read?_unlisted rfl (by rw [hopen, parenthesised?_empty])⟩
    | cons name names =>
      obtain ⟨list, hl, hnames⟩ := parenthesised?_columnList (List.cons_ne_nil name names) r
      refine ⟨r, (read?_listed rfl (hopen ▸ hl)).trans ?_⟩
      rw [hnames]
      rfl

theorem WrittenTarget.isPiece_words (t : WrittenTarget) : ∀ w ∈ t.words, IsPiece w := by
  refine List.forall_mem_cons.mpr ⟨isPiece_keyword (by decide), List.forall_mem_cons.mpr
    ⟨isPiece_qualified t.table, ?_⟩⟩
  cases t.columns with
  | none => simp
  | some names => exact List.forall_mem_singleton.mpr (isPiece_columnList names)

theorem ends_words (words : List Text) : Ends (spaced words) := by
  have h := ends_spaced words (r := []) (by simp [Ends])
  rwa [List.append_nil] at h

namespace Clause

variable {c : Clause} {cs : List Clause}

/-- A clause starts with a keyword that ends a type. -/
theorem exists_words (c : Clause) :
    ∃ k words, c.words = k :: words ∧ IsKeyword k ∧ isTypeStop k = true := by
  cases c <;> exact ⟨_, _, rfl, by decide, by decide⟩

theorem follows_words (cs : List Clause) :
    Follows (fun w => isTypeStop w = true) (spaced (cs.flatMap words)) := by
  cases cs with
  | nil => exact Or.inl rfl
  | cons c cs =>
    obtain ⟨k, words, hwords, hk, hstop⟩ := c.exists_words
    refine Or.inr ⟨k, spaced (words ++ cs.flatMap Clause.words), ?_, hk.1, hk.plain,
      ends_words _, hstop⟩
    rw [List.flatMap_cons, hwords]
    rfl

theorem Valid.bareWords (hc : c.Valid) : ∀ w ∈ c.bareWords, w ≠ [] ∧ Text.Plain w := by
  cases c with
  | default value =>
    have hvalue := hc.default value rfl
    exact List.forall_mem_cons.mpr
      ⟨by decide, List.forall_mem_singleton.mpr ⟨hvalue.nonempty, hvalue.plain⟩⟩
  | references => exact List.forall_mem_singleton.mpr (by decide)
  | notNull | unique | primaryKey => decide

theorem Valid.ascii_words (hc : c.Valid) : ∀ w ∈ c.words, Text.Ascii w := by
  cases c with
  | references t =>
    refine List.forall_mem_cons.mpr ⟨by decide, List.forall_mem_cons.mpr ⟨t.table.ascii_print, ?_⟩⟩
    cases t.columns with
    | none => simp
    | some names => exact List.forall_mem_singleton.mpr (ascii_columnList names)
  | notNull | unique | primaryKey | default => exact fun w hw => (hc.bareWords w hw).2.ascii

theorem Valid.isPiece_words (hc : c.Valid) : ∀ w ∈ c.words, IsPiece w := by
  cases c with
  | references t => exact t.isPiece_words
  | notNull | unique | primaryKey | default =>
    exact fun w hw => isPiece_plain (hc.bareWords w hw).1 (hc.bareWords w hw).2

/-- The words of a default miss every keyword that ends a type, but for the one before it. -/
theorem Valid.upper_ne {value : Text} {k : String} (hc : (Clause.default value).Valid)
    (hk : k ∈ typeStops) (hne : Text.upper "DEFAULT".toList ≠ k.toList) :
    ∀ w ∈ (Clause.default value).bareWords, Text.upper w ≠ k.toList :=
  List.forall_mem_cons.mpr ⟨hne, List.forall_mem_singleton.mpr
    (upper_ne_of_typeStop (hc.default value rfl).notStop hk)⟩

end Clause

namespace Passes

variable (h : Passes find misses)

include h

theorem quoted {n : QuotedName} (hn : IsName n.word) : find (n.print ++ r) = find r :=
  h.around n.quotes hn

theorem qualified {n : QualifiedName} (hn : ∀ q ∈ n.scope ++ [n.name], IsName q.word) :
    find (n.print ++ r) = find r := by
  obtain ⟨scope, name⟩ := n
  induction scope with
  | nil => exact h.quoted (hn name (by simp))
  | cons q scope ih =>
    obtain ⟨hq, hn⟩ := List.forall_mem_cons.mp hn
    rw [QualifiedName.print_cons, List.append_assoc, List.cons_append, h.quoted hq,
      h.mark (by decide)]
    exact ih hn

theorem columnList {names : List QuotedName} (hn : ∀ n ∈ names, IsName n.word) :
    find (columnList names ++ r) = find r := by
  have hjoin : ∀ r, find (Text.join [',', ' '] (names.map QuotedName.print) ++ r) = find r := by
    intro r
    induction names with
    | nil => rfl
    | cons n names ih =>
      obtain ⟨hname, hn⟩ := List.forall_mem_cons.mp hn
      cases names with
      | nil => exact h.quoted hname
      | cons m names =>
        have hnext := ih hn
        simp only [List.map_cons, Text.join, List.append_assoc, List.cons_append,
          List.nil_append] at hnext ⊢
        rw [h.quoted hname, h.mark (by decide), h.mark (by decide), hnext]
  rw [columnList_append, h.mark (by decide), hjoin, h.mark (by decide)]

/-- A search passes over a clause none of whose bare words it is for. -/
theorem clause {c : Clause} (hc : c.Valid) (hm : ∀ w ∈ c.bareWords, misses w) (hr : Ends r) :
    find (Sql.spaced c.words ++ r) = find r := by
  cases c with
  | references t =>
    have hnames := hc.names
    simp only [Clause.names, WrittenTarget.names, List.forall_mem_append,
      List.forall_mem_cons] at hnames
    obtain ⟨hscope, hname, hcolumns⟩ := hnames
    have hlist : find (Sql.spaced (t.columns.map Sql.columnList).toList ++ r) = find r := by
      cases hcs : t.columns with
      | none => rfl
      | some names =>
        have hlist : Sql.spaced [Sql.columnList names] ++ r =
            ' ' :: (Sql.columnList names ++ r) := by simp [Sql.spaced]
        rw [Option.map_some, Option.toList_some, hlist, h.mark (by decide)]
        exact h.columnList fun n hn => hcolumns n (by simpa [hcs] using hn)
    rw [Clause.words, WrittenTarget.words, spaced_cons, spaced_cons, h.mark (by decide),
      h.word (by decide) (hm _ (by simp [Clause.bareWords])) rfl, h.mark (by decide),
      h.qualified (List.forall_mem_append.mpr ⟨hscope, List.forall_mem_singleton.mpr hname⟩)]
    exact hlist
  | notNull | unique | primaryKey | default =>
    exact h.spaced (fun w hw => ⟨(hc.bareWords w hw).2, hm w hw⟩) hr

end Passes

/-- A search through clauses answers with the first of them that it is for. -/
theorem Passes.clauses {find : Text → Option α} (h : Passes find misses)
    {answer : Clause → Option α} {cs : List Clause} (hv : ∀ c ∈ cs, c.Valid)
    (hmiss : ∀ c, c.Valid → answer c = none → ∀ w ∈ c.bareWords, misses w)
    (hread : ∀ c a r, c.Valid → answer c = some a → Follows (fun w => isTypeStop w = true) r →
      find (Sql.spaced c.words ++ r) = some a) :
    find (Sql.spaced (cs.flatMap Clause.words)) = (cs.findSome? answer).or (find []) := by
  induction cs with
  | nil => rfl
  | cons c cs ih =>
    obtain ⟨hc, hv⟩ := List.forall_mem_cons.mp hv
    have hrest := Clause.follows_words cs
    rw [List.flatMap_cons, spaced_append, List.findSome?_cons]
    cases ha : answer c with
    | none => rw [h.clause hc (hmiss c hc ha) hrest.ends, ih hv]
    | some a => rw [hread c a _ hc ha hrest, Option.some_or]

/-- A search passes over the name and the type of a column. -/
theorem Passes.definition {d : Definition} (h : Passes find misses) (hd : d.Valid)
    (hm : ∀ w : TypeWord, w.Valid → misses w.word) : find d.print = find (Sql.spaced d.words) := by
  obtain ⟨words, hv, hspaced⟩ := hd.type.exists_spaced
  have hprint : d.print = d.name.print ++
      (Sql.spaced (words.map TypeWord.spelling) ++ Sql.spaced d.words) := by
    rw [← hspaced]
    rfl
  rw [hprint, h.quoted hd.name]
  exact h.types (fun w hw => ⟨hv w hw, hm w (hv w hw)⟩) (ends_words _)

theorem Passes.map {γ : Type} (h : Passes find misses) (f : β → γ) :
    Passes (fun t => f (find t)) misses where
  mark := fun hc => congrArg f (h.mark hc)
  figures := fun ht hr => congrArg f (h.figures ht hr)
  word := fun hw hm hr => congrArg f (h.word hw hm hr)
  name := fun q hw => congrArg f (h.name q hw)

namespace Definition

variable {d : Definition}

/-- A search for a keyword tells whether one of the clauses is the one that it is for. -/
theorem isSome_searchWord {read : Text → Option α} {first : String} {holds : Clause → Bool}
    (h : Passes (Text.searchWord read false) (fun w => Text.upper w ≠ first.toList))
    (hfirst : first ∈ typeStops) (hd : d.Valid)
    (hmiss : ∀ c, c.Valid → holds c = false → ∀ w ∈ c.bareWords, Text.upper w ≠ first.toList)
    (hread : ∀ c r, holds c = true → Ends r →
      (Text.searchWord read false (spaced c.words ++ r)).isSome = true) :
    (Text.searchWord read false d.print).isSome = d.clauses.any holds := by
  have hclauses : ((Text.searchWord read false (spaced d.words)).map fun _ => ()) =
      (d.clauses.findSome? fun c => if holds c then some () else none).or none := by
    refine (h.map (Option.map fun _ => ())).clauses hd.clauses ?_ ?_
    · intro c hc ha
      exact hmiss c hc (by simpa using ha)
    · intro c a r _ ha hr
      obtain ⟨found, hfound⟩ := Option.isSome_iff_exists.mp
        (hread c r (by simpa using ha) hr.ends)
      rw [hfound]
      rfl
  rw [h.definition hd fun w hw => upper_ne_of_typeStop hw.notStop hfirst, Bool.eq_iff_iff,
    ← Option.isSome_map, hclauses]
  simp

theorem Valid.isPiece_words (hd : d.Valid) : ∀ w ∈ d.words, IsPiece w := by
  intro w hw
  obtain ⟨c, hc, hw⟩ := List.mem_flatMap.mp hw
  exact (hd.clauses c hc).isPiece_words w hw

theorem Valid.ascii_print (hd : d.Valid) : Text.Ascii d.print := by
  obtain ⟨words, hv, hspaced⟩ := hd.type.exists_spaced
  have htype : Text.Ascii (' ' :: d.type) := by
    rw [hspaced]
    apply ascii_spaced
    intro w hw
    obtain ⟨v, hm, rfl⟩ := List.mem_map.mp hw
    exact (hv v hm).ascii_spelling
  have hwords : Text.Ascii (spaced d.words) := by
    apply ascii_spaced
    intro w hw
    obtain ⟨c, hc, hw⟩ := List.mem_flatMap.mp hw
    exact (hd.clauses c hc).ascii_words w hw
  exact Text.ascii_append.mpr ⟨d.name.ascii_print, Text.ascii_append.mpr ⟨htype, hwords⟩⟩

theorem Valid.hasWords_primary (hd : d.Valid) :
    hasWords "PRIMARY" "KEY" (Text.upper d.print) = d.column.isPrimary := by
  rw [hasWords_upper (hd.ascii_print)]
  apply isSome_searchWord (passes_words (by decide)) (by decide) hd
  · intro c hc hfalse
    cases c with
    | primaryKey => cases hfalse
    | default => exact hc.upper_ne (by decide) (by decide)
    | notNull | unique => decide
    | references => exact List.forall_mem_singleton.mpr (by decide)
  · intro c r htrue hr
    cases c with
    | primaryKey =>
      have hread := read_words "PRIMARY" "KEY" (by decide) (by decide) hr
      rw [Clause.words, spaced_cons, (passes_words (by decide)).mark (by decide),
        searchWord_eq_read (by simp) (Option.isSome_of_mem hread), hread]
      rfl
    | _ => cases htrue

theorem Valid.hasWords_notNull (hd : d.Valid) :
    hasWords "NOT" "NULL" (Text.upper d.print) = !d.column.nullable := by
  rw [hasWords_upper (hd.ascii_print), column, Bool.not_not]
  apply isSome_searchWord (passes_words (by decide)) (by decide) hd
  · intro c hc hfalse
    cases c with
    | notNull => cases hfalse
    | default => exact hc.upper_ne (by decide) (by decide)
    | primaryKey | unique => decide
    | references => exact List.forall_mem_singleton.mpr (by decide)
  · intro c r htrue hr
    cases c with
    | notNull =>
      have hread := read_words "NOT" "NULL" (by decide) (by decide) hr
      rw [Clause.words, spaced_cons, (passes_words (by decide)).mark (by decide),
        searchWord_eq_read (by simp) (Option.isSome_of_mem hread), hread]
      rfl
    | _ => cases htrue

theorem Valid.hasWord_unique (hd : d.Valid) :
    hasWord "UNIQUE" (Text.upper d.print) = d.column.isUnique := by
  rw [hasWord_upper (hd.ascii_print)]
  apply isSome_searchWord passes_unique (by decide) hd
  · intro c hc hfalse
    cases c with
    | unique => cases hfalse
    | default => exact hc.upper_ne (by decide) (by decide)
    | primaryKey | notNull => decide
    | references => exact List.forall_mem_singleton.mpr (by decide)
  · intro c r htrue hr
    cases c with
    | unique =>
      have hk : IsKeyword "UNIQUE".toList := by decide
      have hread := hk.wholeKeyword? hr.atWordEnd
      have hwords : spaced Clause.unique.words ++ r = ' ' :: ("UNIQUE".toList ++ r) := by
        simp [Clause.words, spaced]
      rw [hwords, passes_unique.mark (by decide),
        searchWord_eq_read (by simp) (Option.isSome_of_mem hread), hread]
      rfl
    | _ => cases htrue

theorem Valid.columnTarget?_print (hd : d.Valid) : columnTarget? d.print = d.column.reference := by
  have h : Passes columnTarget? (fun w => Text.upper w ≠ "REFERENCES".toList) :=
    passes_references.map _
  rw [h.definition hd fun w hw => upper_ne_of_typeStop hw.notStop (by decide)]
  refine (h.clauses hd.clauses ?_ ?_).trans Option.or_none
  · intro c hc hnone
    cases c with
    | references => cases hnone
    | default => exact hc.upper_ne (by decide) (by decide)
    | primaryKey | notNull | unique => decide
  · intro c a r _ hsome hr
    cases c with
    | references t =>
      obtain ⟨left, hread⟩ := t.read?_words hr
      have hfound := searchWord_eq_read (by simp) (Option.isSome_of_mem hread)
      rw [Clause.words, WrittenTarget.words, spaced_cons, h.mark (by decide), columnTarget?,
        hfound, hread]
      exact hsome
    | _ => cases hsome

theorem Valid.columnDefault?_print (hd : d.Valid) : columnDefault? d.print = d.column.defaultValue := by
  have h : Passes columnDefault? (fun w => ¬ "DEFAULT".toList <:+ Text.upper w) :=
    passes_default.map fun value? => (value?.map stripQuotes).filter fun value =>
      Text.upper value != "NULL".toList
  rw [h.definition hd fun w hw => hw.notDefault]
  refine (h.clauses hd.clauses ?_ ?_).trans Option.or_none
  · intro c hc hnone
    cases c with
    | default => cases hnone
    | primaryKey | notNull | unique => decide
    | references => exact List.forall_mem_singleton.mpr (by decide)
  · intro c a r hc hsome hr
    cases c with
    | default value =>
      obtain ⟨hne, hplain, hstop⟩ := hc.default value rfl
      have hnull := upper_ne_of_typeStop (k := "NULL") hstop (by decide)
      have hend : r = [] ∨ ∃ t, r = ' ' :: t := by
        rcases hr with rfl | ⟨v, t, rfl, -⟩
        · exact Or.inl rfl
        · exact Or.inr ⟨_, rfl⟩
      have hread := read_default hne hplain hend
      have hwords : spaced (Clause.default value).words ++ r =
          ' ' :: ("DEFAULT".toList ++ ' ' :: (value ++ r)) := by simp [Clause.words, spaced]
      rw [hwords, h.mark (by decide), columnDefault?, defaultWord?_eq,
        search_eq_read (Option.isSome_of_mem hread), hread, Option.map_some,
        stripQuotes_plain hplain, Option.filter_some, if_pos (by simpa using hnull)]
      exact hsome
    | _ => cases hsome

/-- What is declared by a definition is read from it. -/
theorem Valid.column?_print (hd : d.Valid) : column? d.print = some d.column := by
  obtain ⟨v, r, htype, hne, hv⟩ := hd.type.exists_append
  have hhead : definitionHead? d.print = some (d.name.word, d.type ++ spaced d.words) := by
    have hskip : Text.skipBlanks (d.type ++ spaced d.words) = d.type ++ spaced d.words := by
      rw [htype, List.append_assoc, Text.skipBlanks_append hv hne]
    rw [definitionHead?, print, d.name.name?_print]
    simp only [Option.bind_eq_bind, Option.bind_some, Text.gap?_blank, hskip, Option.map_some,
      d.name.unquote_print]
  have hempty : d.type.isEmpty = false := by simp [htype, hne]
  rw [column?, hhead, Option.bind_eq_bind, Option.bind_some]
  simp only [columnType_append hd.type (Clause.follows_words d.clauses), words, hempty,
    Bool.false_eq_true, if_false]
  rw [columnOf, hd.hasWords_primary, hd.hasWord_unique, hd.hasWords_notNull,
    hd.columnDefault?_print, hd.columnTarget?_print]
  cases hr : d.clauses.findSome? Clause.reference? with
  | none => simp only [column, hr, Bool.not_not]
  | some r => simp only [column, hr, Bool.not_not, Column.pointAt, Option.isSome_some]

/-- No keyword stands before a name in quotes, so a definition declares a column. -/
theorem partKind_print (d : Definition) : partKind d.print = .column := by
  obtain ⟨⟨quotes, word, _, _⟩, type, clauses⟩ := d
  cases quotes <;> rfl

/-- A scan of the body comes out of a definition as it went in. -/
theorem Valid.over_print (hd : d.Valid) : Scan.Over (Scan.level 0) d.print (Scan.level 0) := by
  obtain ⟨words, hv, hspaced⟩ := hd.type.exists_spaced
  have htype : Scan.Over (Scan.level 0) (' ' :: d.type) (Scan.level 0) := by
    rw [hspaced]
    apply Scan.over_spaced (by decide)
    intro w hw
    obtain ⟨v, hm, rfl⟩ := List.mem_map.mp hw
    exact (hv v hm).over_spelling (by decide)
  have hwords : Scan.Over (Scan.level 0) (spaced d.words) (Scan.level 0) :=
    Scan.over_spaced (by decide) fun w hw => (hd.isPiece_words w hw).passes
  exact (isPiece_name d.name).passes.append (htype.append hwords)

theorem Valid.isTrim_print (hd : d.Valid) : IsTrim d.print := by
  obtain ⟨words, hv, hspaced⟩ := hd.type.exists_spaced
  have htype : spaced (words.map TypeWord.spelling) = [] ∨
      Closes (spaced (words.map TypeWord.spelling)) := by
    apply closes_spaced
    intro w hw
    obtain ⟨v, hm, rfl⟩ := List.mem_map.mp hw
    exact (hv v hm).closes_spelling
  have hname : Closes (d.name.word ++ [d.name.quotes.closer]) :=
    ⟨d.name.word, _, rfl, d.name.quotes.isBlank_closer⟩
  have hwords := closes_spaced fun w hw => (hd.isPiece_words w hw).closes
  refine ⟨d.name.quotes.opener, d.name.word ++ [d.name.quotes.closer] ++
    spaced (words.map TypeWord.spelling) ++ spaced d.words, ?_, d.name.quotes.isBlank_opener,
    (hname.append htype).append hwords⟩
  rw [print, ← List.cons_append, hspaced]
  simp [QuotedName.print, Quotes.around]

end Definition
end SchemaDiagram.Sql
