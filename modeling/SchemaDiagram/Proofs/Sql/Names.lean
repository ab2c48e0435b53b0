import SchemaDiagram.Proofs.Sql.Printing
import SchemaDiagram.Proofs.Sql.Quoting
import SchemaDiagram.Sql.Target

/-! Reading names in backticks back: alone, after their qualifiers, and as a list of one. -/
namespace SchemaDiagram.Sql

variable {w r : Text} {scope : List Text}

/-- The name as one that stands in quotes of some kind. -/
def IsName.ticked (h : IsName w) : QuotedName := ⟨.backticks, w, h.nonempty, h.plain⟩

theorem name?_tick (h : IsName w) : name? (tick w ++ r) = some (tick w, r) := h.ticked.name?_print

theorem unquote_tick (w : Text) : unquote (tick w) = w := Quotes.backticks.unquote_around w

theorem exists_chain (hs : ∀ q ∈ scope, IsName q) (hw : IsName w) :
    ∃ n : QualifiedName, n.print = chain scope w ∧ n.name = hw.ticked := by
  induction scope with
  | nil => exact ⟨⟨[], hw.ticked⟩, rfl, rfl⟩
  | cons q scope ih =>
    obtain ⟨hq, hs⟩ := List.forall_mem_cons.mp hs
    obtain ⟨⟨qualifiers, name⟩, hprint, hname⟩ := ih hs
    refine ⟨⟨hq.ticked :: qualifiers, name⟩, ?_, hname⟩
    rw [QualifiedName.print_cons, hprint]
    simp [chain, IsName.ticked, QuotedName.print, Quotes.around, Quotes.opener, Quotes.closer, tick]

theorem chain_append_eq (scope : List Text) (w r : Text) :
    ∃ t, chain scope w ++ r = '\x60' :: t := by
  cases scope <;> simp [chain, tick]

theorem skipBlanks_chain (scope : List Text) (w r : Text) :
    Text.skipBlanks (chain scope w ++ r) = chain scope w ++ r := by
  obtain ⟨t, ht⟩ := chain_append_eq scope w r
  rw [ht, Text.skipBlanks_cons (by decide)]

/-- The longest reading of a name with its qualifiers is the whole chain. -/
theorem qualified_chain (hs : ∀ q ∈ scope, IsName q) (hw : IsName w) (hr : dot? r = none) :
    (qualified (chain scope w ++ r)).head? = some (tick w, r) := by
  obtain ⟨n, hprint, hname⟩ := exists_chain hs hw
  rw [← hprint, n.head?_qualified_print hr, hname]
  rfl

theorem parenthesised?_tick (h : IsName w) :
    parenthesised? ('(' :: (tick w ++ ')' :: r)) = some (tick w, r) :=
  NameList.parenthesised?_print ⟨h.ticked, []⟩

theorem listedNames_tick (h : IsName w) : listedNames (tick w) = [w] :=
  NameList.listedNames_print ⟨h.ticked, []⟩

end SchemaDiagram.Sql
