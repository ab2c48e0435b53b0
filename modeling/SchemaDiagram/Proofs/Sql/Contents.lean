import SchemaDiagram.Proofs.Sql.Definition
import SchemaDiagram.Proofs.Text.Searching

/-!
Literals in the definition of a column. The searches for constraints pay no heed to quotes: a literal
cuts a definition into three texts, and what it declares is what each of them declares by itself, the
content of the literal among them.
-/
namespace SchemaDiagram

open Sql

/-- Two columns have the same constraints, their defaults left out. -/
structure Column.SameConstraints (c d : Column) : Prop where
  isPrimary : c.isPrimary = d.isPrimary
  isUnique : c.isUnique = d.isUnique
  nullable : c.nullable = d.nullable
  isForeign : c.isForeign = d.isForeign
  reference : c.reference = d.reference

namespace Sql

variable {before after content other t r name type : Text} {first second : String}

/-- A definition with a literal in it. -/
def aroundLiteral (before content after : Text) : Text :=
  before ++ '\'' :: (content ++ '\'' :: after)

theorem columnOf_eq (definition name type : Text) : columnOf definition name type =
    { name, type
      isPrimary := hasWords "PRIMARY" "KEY" (Text.upper definition)
      isUnique := hasWord "UNIQUE" (Text.upper definition)
      nullable := !hasWords "NOT" "NULL" (Text.upper definition)
      defaultValue := columnDefault? definition
      reference := columnTarget? definition } := by
  unfold columnOf
  cases columnTarget? definition <;> rfl

theorem upper_quote (t r : Text) :
    Text.upper (t ++ '\'' :: r) = Text.upper t ++ '\'' :: Text.upper r :=
  Text.upper_append_cons rfl t r

theorem hasWord_quote (hne : first.toList ≠ []) (hm : '\'' ∉ first.toList) (t r : Text) :
    hasWord first (t ++ '\'' :: r) = (hasWord first t || hasWord first r) := by
  have hstops : Text.StopsAt '\'' fun t => (Text.after? first.toList t).filter Text.atWordEnd :=
    (Text.stopsAt_after? hm).atWordEnd (by decide)
  obtain ⟨k, ks, hk⟩ := List.exists_cons_of_ne_nil hne
  refine hstops.isSome_searchWord ?_ (by decide) t r
  rw [hk]
  rfl

theorem hasWords_quote (hne : first.toList ≠ []) (hm : '\'' ∉ first.toList)
    (hs : '\'' ∉ second.toList) (t r : Text) :
    hasWords first second (t ++ '\'' :: r) = (hasWords first second t || hasWords first second r) := by
  have hsecond : Text.StopsAt '\'' fun t =>
      (Text.after? second.toList t).filter Text.atWordEnd :=
    (Text.stopsAt_after? hs).atWordEnd (by decide)
  have hstops : Text.StopsAt '\'' fun t => Text.after? first.toList t >>= fun t =>
      Text.gap? t >>= fun t => (Text.after? second.toList t).filter Text.atWordEnd :=
    (Text.stopsAt_after? hm).bind ((Text.stopsAt_gap? (by decide)).bind hsecond)
  obtain ⟨k, ks, hk⟩ := List.exists_cons_of_ne_nil hne
  refine hstops.isSome_searchWord ?_ (by decide) t r
  rw [hk]
  rfl

/-- Each reference that starts in the text is read alike with and without what follows. -/
def ReferencesEnd (t r : Text) : Prop :=
  ∀ u ∈ Text.wordStarts false t, (Target.read? (u ++ r)).map Prod.fst = (Target.read? u).map Prod.fst

instance (t r : Text) : Decidable (ReferencesEnd t r) := List.decidableBAll _ _

theorem columnTarget?_quote (h : ReferencesEnd t ('\'' :: r)) :
    columnTarget? (t ++ '\'' :: r) = (columnTarget? t).or (columnTarget? r) := by
  have hfront := Text.map_searchWord_congr Prod.fst h
  have htarget (t : Text) : columnTarget? t = ((Text.searchWord Target.read? false t).map
      Prod.fst).map fun target => ⟨target.table, target.columns.headD impliedColumn⟩ := by
    rw [columnTarget?, Option.map_map]
    rfl
  rw [htarget, Text.searchWord_append (by decide) rfl, Option.map_or, hfront, Option.map_or,
    ← htarget, ← htarget]

/-- No reference that starts in front of the literal or in it reads on over the quote behind. -/
structure ReadsApart (before content after : Text) : Prop where
  before : ReferencesEnd before ('\'' :: (content ++ '\'' :: after))
  content : ReferencesEnd content ('\'' :: after)

instance (before content after : Text) : Decidable (ReadsApart before content after) :=
  decidable_of_iff (ReferencesEnd before ('\'' :: (content ++ '\'' :: after)) ∧
    ReferencesEnd content ('\'' :: after)) ⟨fun h => ⟨h.1, h.2⟩, fun h => ⟨h.1, h.2⟩⟩

theorem isPrimary_aroundLiteral (before content after name type : Text) :
    (columnOf (aroundLiteral before content after) name type).isPrimary =
      ((columnOf before name type).isPrimary || ((columnOf content name type).isPrimary ||
        (columnOf after name type).isPrimary)) := by
  simp only [columnOf_eq, aroundLiteral, upper_quote]
  rw [hasWords_quote (by decide) (by decide) (by decide),
    hasWords_quote (by decide) (by decide) (by decide)]

theorem isUnique_aroundLiteral (before content after name type : Text) :
    (columnOf (aroundLiteral before content after) name type).isUnique =
      ((columnOf before name type).isUnique || ((columnOf content name type).isUnique ||
        (columnOf after name type).isUnique)) := by
  simp only [columnOf_eq, aroundLiteral, upper_quote]
  rw [hasWord_quote (by decide) (by decide), hasWord_quote (by decide) (by decide)]

theorem nullable_aroundLiteral (before content after name type : Text) :
    (columnOf (aroundLiteral before content after) name type).nullable =
      ((columnOf before name type).nullable && ((columnOf content name type).nullable &&
        (columnOf after name type).nullable)) := by
  simp only [columnOf_eq, aroundLiteral, upper_quote]
  rw [hasWords_quote (by decide) (by decide) (by decide),
    hasWords_quote (by decide) (by decide) (by decide), Bool.not_or, Bool.not_or]

theorem reference_aroundLiteral (h : ReadsApart before content after) (name type : Text) :
    (columnOf (aroundLiteral before content after) name type).reference =
      (columnOf before name type).reference.or ((columnOf content name type).reference.or
        (columnOf after name type).reference) := by
  simp only [columnOf_eq, aroundLiteral]
  rw [columnTarget?_quote h.before, columnTarget?_quote h.content]

theorem isForeign_columnOf (definition name type : Text) :
    (columnOf definition name type).isForeign = (columnOf definition name type).reference.isSome := by
  simp only [columnOf_eq]

/-- Exactly the constraints count that stand in front of a literal, in it or behind it, so two
contents that declare the same by themselves give the same constraints. -/
theorem columnOf_literal (before after name type : Text) :
    let column := fun content => columnOf (aroundLiteral before content after) name type
    (∀ content,
      ((column content).isPrimary = true ↔
        ∃ t ∈ [before, content, after], (columnOf t name type).isPrimary = true) ∧
      ((column content).isUnique = true ↔
        ∃ t ∈ [before, content, after], (columnOf t name type).isUnique = true) ∧
      ((column content).nullable = false ↔
        ∃ t ∈ [before, content, after], (columnOf t name type).nullable = false) ∧
      (ReadsApart before content after → (column content).reference =
        [before, content, after].findSome? fun t => (columnOf t name type).reference)) ∧
    ∀ content other, ReadsApart before content after → ReadsApart before other after →
      (columnOf content name type).SameConstraints (columnOf other name type) →
      (column content).SameConstraints (column other) := by
  intro column
  refine ⟨fun content => ⟨?_, ?_, ?_, fun h => ?_⟩, fun content other h h' hsame => ?_⟩
  · simp [column, isPrimary_aroundLiteral]
  · simp [column, isUnique_aroundLiteral]
  · simp only [column, nullable_aroundLiteral, Bool.and_eq_false_iff, List.exists_mem_cons_iff]
    simp
  · rw [reference_aroundLiteral h, List.findSome?_cons, List.findSome?_cons, List.findSome?_cons]
    cases (columnOf before name type).reference <;> cases (columnOf content name type).reference <;>
      cases (columnOf after name type).reference <;> rfl
  · have hreference : (column content).reference = (column other).reference := by
      rw [reference_aroundLiteral h, reference_aroundLiteral h', hsame.reference]
    constructor
    · rw [isPrimary_aroundLiteral, isPrimary_aroundLiteral, hsame.isPrimary]
    · rw [isUnique_aroundLiteral, isUnique_aroundLiteral, hsame.isUnique]
    · rw [nullable_aroundLiteral, nullable_aroundLiteral, hsame.nullable]
    · rw [isForeign_columnOf, isForeign_columnOf, hreference]
    · exact hreference

/-- Two default values that declare nothing, between a reference and a further constraint. -/
theorem columnOf_default_literal :
    let before := "c INT REFERENCES a (b) DEFAULT ".toList
    let after := " UNIQUE".toList
    (columnOf (aroundLiteral before "new, not used".toList after) "c".toList
      "INT".toList).SameConstraints
      (columnOf (aroundLiteral before "x".toList after) "c".toList "INT".toList) :=
  (columnOf_literal "c INT REFERENCES a (b) DEFAULT ".toList " UNIQUE".toList "c".toList
    "INT".toList).2 "new, not used".toList "x".toList (by decide +kernel) (by decide +kernel)
    ⟨by decide +kernel, by decide +kernel, by decide +kernel, by decide +kernel,
      by decide +kernel⟩

/-- A content that reads like a constraint declares it. -/
theorem columnOf_constraints_literal :
    ¬∀ before content other after name type : Text,
      (Scan.after {} before).quote = none → (Scan.after {} before).escaped = false →
      (∀ c ∈ content ++ other, isQuote c = false ∧ c ≠ '\\') →
      (columnOf (aroundLiteral before content after) name type).SameConstraints
        (columnOf (aroundLiteral before other after) name type) := by
  intro h
  have hsame := h "c VARCHAR(20) DEFAULT ".toList "UNIQUE".toList "x".toList [] "c".toList
    "VARCHAR(20)".toList (by decide) (by decide) (by simp [isQuote])
  exact absurd hsame.isUnique (by decide)

end Sql
end SchemaDiagram
