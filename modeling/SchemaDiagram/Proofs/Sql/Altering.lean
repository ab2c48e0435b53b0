import SchemaDiagram.Proofs.Sql.Body
import SchemaDiagram.Proofs.Sql.Keywords
import SchemaDiagram.Sql.AlterTable

/-!
Statements that add foreign keys and columns to a table, and how one of them is read. Both readers
of foreign keys come upon the same clauses with the same names.
-/
namespace SchemaDiagram.Sql

variable {r : Text} {c : Char} {k : String}

/-- A foreign key as it is added to a table, with or without a name of its own. -/
structure KeyAddition where
  constraint : Option QuotedName
  columns : NameList
  target : QualifiedName
  parents : NameList

/-- What a statement adds to its table. -/
inductive Addition where
  | key (k : KeyAddition)
  | column (name : QuotedName)

/-- A statement that changes a table by one addition or more. -/
structure Alteration where
  table : QualifiedName
  first : Addition
  rest : List Addition

namespace KeyAddition

def naming (k : KeyAddition) : List Text :=
  match k.constraint with
  | some name => ["CONSTRAINT".toList, name.print]
  | none => []

def targetWords (k : KeyAddition) : List Text :=
  ["REFERENCES".toList, k.target.print, '(' :: (k.parents.print ++ [')'])]

def clauseWords (k : KeyAddition) : List Text :=
  "FOREIGN".toList :: "KEY".toList :: ('(' :: (k.columns.print ++ [')'])) :: k.targetWords

/-- The clause that is written. -/
def clause (k : KeyAddition) : KeyClause :=
  ⟨k.columns.words, ⟨k.target.name.word, k.parents.words⟩⟩

/-- The foreign key that a table of this name gets. -/
def key (k : KeyAddition) (table : Text) : ForeignKey where
  table := table
  columns := k.columns.words
  refTable := k.target.name.word
  refColumns := k.parents.words
  constraintName := k.constraint.map (·.word)

end KeyAddition

namespace Addition

def words : Addition → List Text
  | key k => "ADD".toList :: (k.naming ++ k.clauseWords)
  | column name => ["ADD".toList, "COLUMN".toList, name.print, "INT".toList]

/-- The words with blanks between them. -/
def print (a : Addition) : Text := Text.join [' '] a.words

def key? (table : Text) : Addition → Option ForeignKey
  | key k => some (k.key table)
  | column _ => none

end Addition

namespace Alteration

def additions (a : Alteration) : List Addition := a.first :: a.rest

/-- The additions with a comma and a blank between them. -/
def actions (a : Alteration) : Text := Text.join [',', ' '] (a.additions.map Addition.print)

def print (a : Alteration) : Text :=
  "ALTER".toList ++ ' ' :: ("TABLE".toList ++ ' ' :: (a.table.print ++ ' ' :: (a.actions ++ [';'])))

/-- The foreign keys that are added, in order. -/
def keys (a : Alteration) : List ForeignKey :=
  a.additions.filterMap (Addition.key? a.table.name.word)

/-- Statements with a line end after each. -/
def script (as : List Alteration) : Text := as.flatMap fun a => a.print ++ ['\n']

end Alteration

theorem keywordGap?_keyword (hk : IsKeyword k.toList) (hr : Text.skipBlanks r = r) :
    Text.keywordGap? k (k.toList ++ ' ' :: r) = some r := by
  simp only [Text.keywordGap?, Text.keyword?, hk.afterCapitals, Option.bind_eq_bind,
    Option.bind_some, Text.gap?_blank, hr]

theorem keywordGap?_figure (hk : IsKeyword k.toList) (hc : isFigure c = true) :
    Text.keywordGap? k (c :: r) = none := by
  simp only [Text.keywordGap?, Text.keyword?, afterCapitals_figure hk hc, Option.bind_eq_bind,
    Option.bind_none]

/-- Quotes are no keyword. -/
theorem QualifiedName.keywordGap?_print (hk : IsKeyword k.toList) (n : QualifiedName) (r : Text) :
    Text.keywordGap? k (n.print ++ r) = none := by
  obtain ⟨q, t, hn⟩ := n.exists_opener
  rw [hn]
  exact keywordGap?_figure hk (isFigure_of_mark q.isWord_opener)

theorem findSome?_of_head? {α β : Type} {f : α → Option β} {as : List α} {a : α} {b : β}
    (ha : as.head? = some a) (hf : f a = some b) : as.findSome? f = some b := by
  obtain ⟨rest, rfl⟩ := List.head?_eq_some_iff.mp ha
  simp [hf]

namespace KeyAddition

variable (k : KeyAddition)

theorem clauseWords_ne_nil : k.clauseWords ≠ [] := List.cons_ne_nil _ _

theorem targetWords_append (r : Text) : Text.join [' '] k.targetWords ++ r = "REFERENCES".toList ++
    ' ' :: (k.target.print ++ ' ' :: '(' :: (k.parents.print ++ ')' :: r)) := by
  unfold targetWords
  generalize "REFERENCES".toList = references
  simp [Text.join]

theorem clauseWords_append (r : Text) : Text.join [' '] k.clauseWords ++ r = "FOREIGN".toList ++
    ' ' :: ("KEY".toList ++ ' ' :: '(' :: (k.columns.print ++ ')' :: ' ' ::
      (Text.join [' '] k.targetWords ++ r))) := by
  unfold clauseWords targetWords
  generalize "FOREIGN".toList = foreign
  generalize "KEY".toList = key
  generalize "REFERENCES".toList = references
  simp [Text.join]

theorem read?_target :
    Target.read? (Text.join [' '] k.targetWords ++ r) = some (k.clause.target, r) := by
  have hname := k.target.head?_qualified_print
    (r := ' ' :: '(' :: (k.parents.print ++ ')' :: r)) rfl
  have hopen : Text.skipBlanks (' ' :: '(' :: (k.parents.print ++ ')' :: r)) =
      '(' :: (k.parents.print ++ ')' :: r) := rfl
  rw [targetWords_append, Target.read?,
    keywordGap?_keyword (by decide) (k.target.skipBlanks_print _)]
  simp only [Option.bind_eq_bind, Option.bind_some, hname, hopen, NameList.parenthesised?_print,
    QuotedName.unquote_print, NameList.listedNames_print]
  rfl

theorem readFull?_target :
    Target.readFull? (Text.join [' '] k.targetWords ++ r) = some (k.clause.target, r) := by
  have hopen : Text.skipBlanks (' ' :: '(' :: (k.parents.print ++ ')' :: r)) =
      '(' :: (k.parents.print ++ ')' :: r) := rfl
  rw [targetWords_append, Target.readFull?,
    keywordGap?_keyword (by decide) (k.target.skipBlanks_print _)]
  apply findSome?_of_head? (k.target.head?_qualified_print rfl)
  simp only [Option.bind_eq_bind, Option.bind_some, hopen, NameList.parenthesised?_print,
    QuotedName.unquote_print, NameList.listedNames_print]
  rfl

theorem skipBlanks_target :
    Text.skipBlanks (' ' :: (Text.join [' '] k.targetWords ++ r)) =
      Text.join [' '] k.targetWords ++ r := by
  rw [targetWords_append]
  rfl

theorem skipBlanks_clause :
    Text.skipBlanks (Text.join [' '] k.clauseWords ++ r) = Text.join [' '] k.clauseWords ++ r := by
  rw [clauseWords_append]
  rfl

end KeyAddition

/-- A reader of clauses that reads what is written and wants the keyword of foreign keys. -/
structure ReadsClauses (clause? : Text → Option (KeyClause × Text)) : Prop where
  clause : ∀ (k : KeyAddition) (r : Text),
    clause? (Text.join [' '] k.clauseWords ++ r) = some (k.clause, r)
  keyword : ∀ {t}, Text.keywordGap? "FOREIGN" t = none → clause? t = none

theorem readsClauses_read? : ReadsClauses KeyClause.read? where
  clause := by
    intro k r
    have hopen : skipName (Text.skipBlanks
        (' ' :: '(' :: (k.columns.print ++ ')' :: ' ' :: (Text.join [' '] k.targetWords ++ r)))) =
          '(' :: (k.columns.print ++ ')' :: ' ' :: (Text.join [' '] k.targetWords ++ r)) := rfl
    have hkey : IsKeyword "KEY".toList := by decide
    rw [k.clauseWords_append, KeyClause.read?, keywordGap?_keyword (by decide) rfl]
    simp only [Option.bind_eq_bind, Option.bind_some, Text.keyword?, hkey.afterCapitals, hopen,
      NameList.parenthesised?_print, k.skipBlanks_target, k.read?_target,
      NameList.listedNames_print]
    rfl
  keyword := by
    intro t ht
    simp only [KeyClause.read?, ht, Option.bind_eq_bind, Option.bind_none]

theorem readsClauses_readFull? : ReadsClauses KeyClause.readFull? where
  clause := by
    intro k r
    have hopen : Text.skipBlanks
        (' ' :: '(' :: (k.columns.print ++ ')' :: ' ' :: (Text.join [' '] k.targetWords ++ r))) =
          '(' :: (k.columns.print ++ ')' :: ' ' :: (Text.join [' '] k.targetWords ++ r)) := rfl
    have hkey : IsKeyword "KEY".toList := by decide
    rw [k.clauseWords_append, KeyClause.readFull?, keywordGap?_keyword (by decide) rfl]
    simp only [Option.bind_eq_bind, Option.bind_some, Text.keyword?, hkey.afterCapitals, hopen,
      NameList.parenthesised?_print, k.skipBlanks_target, k.readFull?_target,
      NameList.listedNames_print]
    rfl
  keyword := by
    intro t ht
    simp only [KeyClause.readFull?, ht, Option.bind_eq_bind, Option.bind_none]

/-- What a reader of clauses finds after the keyword for additions. -/
def clauseAfter? (clause? : Text → Option (KeyClause × Text)) (t : Text) :
    Option ((Option Text × KeyClause) × Text) := do
  let (name, t) := match constraintName? t with
    | some (name, rest) => (some name, rest)
    | none => (none, t)
  let (clause, rest) ← clause? t
  some ((name, clause), rest)

variable {clause? : Text → Option (KeyClause × Text)}

theorem added?_eq (t : Text) :
    added? clause? t = (Text.keywordGap? "ADD" t >>= clauseAfter? clause?) := rfl

namespace ReadsClauses

variable (h : ReadsClauses clause?)

include h

/-- Without the keyword of constraints, the clause follows at once. -/
theorem clauseAfter?_unnamed (k : KeyAddition) :
    clauseAfter? clause? (Text.join [' '] k.clauseWords ++ r) = some ((none, k.clause), r) := by
  have hnone : constraintName? (Text.join [' '] k.clauseWords ++ r) = none := by
    rw [k.clauseWords_append]
    rfl
  simp only [clauseAfter?, hnone, h.clause, Option.bind_eq_bind, Option.bind_some]

theorem clauseAfter?_named (k : KeyAddition) (name : QuotedName) :
    clauseAfter? clause?
      ("CONSTRAINT".toList ++ ' ' :: (name.print ++ ' ' :: (Text.join [' '] k.clauseWords ++ r))) =
        some ((some name.print, k.clause), r) := by
  have hname : Text.skipBlanks (name.print ++ ' ' :: (Text.join [' '] k.clauseWords ++ r)) =
      name.print ++ ' ' :: (Text.join [' '] k.clauseWords ++ r) :=
    QualifiedName.skipBlanks_print ⟨[], name⟩ _
  have hsome : constraintName?
      ("CONSTRAINT".toList ++ ' ' :: (name.print ++ ' ' :: (Text.join [' '] k.clauseWords ++ r))) =
        some (name.print, Text.join [' '] k.clauseWords ++ r) := by
    rw [constraintName?, keywordGap?_keyword (by decide) hname]
    simp only [Option.bind_eq_bind, Option.bind_some, name.name?_print, Text.gap?_blank,
      k.skipBlanks_clause]
  simp only [clauseAfter?, hsome, h.clause, Option.bind_eq_bind, Option.bind_some]

/-- No clause is read where neither of its keywords stands. -/
theorem clauseAfter?_eq_none {t : Text} (hc : Text.keywordGap? "CONSTRAINT" t = none)
    (hf : Text.keywordGap? "FOREIGN" t = none) : clauseAfter? clause? t = none := by
  have hname : constraintName? t = none := by
    simp only [constraintName?, hc, Option.bind_eq_bind, Option.bind_none]
  simp only [clauseAfter?, hname, h.keyword hf, Option.bind_eq_bind, Option.bind_none]

end ReadsClauses

namespace Addition

/-- The name as it is written, and the clause. -/
def found? : Addition → Option (Option Text × KeyClause)
  | key k => some (k.constraint.map QuotedName.print, k.clause)
  | column _ => none

theorem map_found? (a : Addition) (table : Text) :
    (a.found?.map fun found => keyOf table found.1 found.2) = a.key? table := by
  cases a with
  | key k =>
    cases hk : k.constraint with
    | none => simp [found?, key?, keyOf, KeyAddition.key, KeyAddition.clause, hk]
    | some name =>
      simp [found?, key?, keyOf, KeyAddition.key, KeyAddition.clause, hk, name.unquote_print]
  | column => rfl

theorem print_unnamed {k : KeyAddition} (hk : k.constraint = none) :
    print (key k) ++ r = "ADD".toList ++ ' ' :: (Text.join [' '] k.clauseWords ++ r) := by
  have hwords : words (key k) = "ADD".toList :: k.clauseWords := by
    rw [words, KeyAddition.naming, hk, List.nil_append]
  rw [print, hwords, Text.join_cons_append k.clauseWords_ne_nil]

theorem print_named {k : KeyAddition} {name : QuotedName} (hk : k.constraint = some name) :
    print (key k) ++ r = "ADD".toList ++ ' ' :: ("CONSTRAINT".toList ++
      ' ' :: (name.print ++ ' ' :: (Text.join [' '] k.clauseWords ++ r))) := by
  have hwords : words (key k) =
      "ADD".toList :: "CONSTRAINT".toList :: name.print :: k.clauseWords := by
    rw [words, KeyAddition.naming, hk, List.cons_append, List.singleton_append]
  rw [print, hwords, Text.join_cons_append (List.cons_ne_nil _ _),
    Text.join_cons_append (List.cons_ne_nil _ _), Text.join_cons_append k.clauseWords_ne_nil]

theorem print_column (name : QuotedName) :
    print (column name) ++ r = "ADD".toList ++ ' ' :: ("COLUMN".toList ++
      ' ' :: (name.print ++ ' ' :: ("INT".toList ++ r))) := by
  unfold print words
  generalize "ADD".toList = add
  generalize "COLUMN".toList = column
  generalize "INT".toList = type
  simp [Text.join]

/-- Both readers find of an addition what was written. -/
theorem added?_print (h : ReadsClauses clause?) (a : Addition) :
    added? clause? (a.print ++ r) = a.found?.map (·, r) := by
  rw [added?_eq]
  cases a with
  | key k =>
    cases hk : k.constraint with
    | none =>
      rw [print_unnamed hk, keywordGap?_keyword (by decide) k.skipBlanks_clause, found?, hk]
      exact h.clauseAfter?_unnamed k
    | some name =>
      rw [print_named hk, keywordGap?_keyword (by decide) rfl, found?, hk]
      exact h.clauseAfter?_named k name
  | column name =>
    rw [print_column, keywordGap?_keyword (by decide) rfl, Option.bind_eq_bind, Option.bind_some]
    exact h.clauseAfter?_eq_none rfl rfl

end Addition
end SchemaDiagram.Sql
