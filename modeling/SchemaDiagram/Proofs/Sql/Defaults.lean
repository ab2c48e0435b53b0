import SchemaDiagram.Proofs.Sql.Renaming

/-!
Literals as defaults. Of a literal behind the keyword for the default, what stands in front of its
first blank or comma is the default of the column, so a literal is kept whole where it has neither.
-/
namespace SchemaDiagram.Sql

variable {v front tail : Text}

/-- The part of a text in front of its first blank or comma. -/
def unbroken (t : Text) : Text := t.takeWhile fun c => !Text.isBlank c && c != ','

theorem unbroken_eq_self_iff : unbroken v = v ↔ ∀ c ∈ v, Text.isBlank c = false ∧ c ≠ ',' := by
  rw [unbroken, List.takeWhile_eq_self_iff]
  simp

theorem Unquoted.unbroken (hv : Unquoted v) : Unquoted (unbroken v) :=
  fun c hc => hv c ((List.takeWhile_sublist _).subset hc)

/-- A literal is read up to its first blank or comma, and with its quote where it has neither. -/
theorem plainValue?_literal (htail : tail.head?.all Text.isBlank = true) (v : Text) :
    ∃ post, (∀ c ∈ post, c = '\'') ∧
      plainValue? ('\'' :: (v ++ '\'' :: tail)) = some (['\''] ++ unbroken v ++ post) := by
  have hend : unbroken ('\'' :: tail) = ['\''] := by
    cases tail with
    | nil => rfl
    | cons c tail =>
      have hc : Text.isBlank c = true := by simpa using htail
      simp [unbroken, hc, show Text.isBlank '\'' = false from rfl]
  have hopen : unbroken ('\'' :: (v ++ '\'' :: tail)) = '\'' :: unbroken (v ++ '\'' :: tail) :=
    List.takeWhile_cons_of_pos rfl
  have hread (post : Text) (h : unbroken (v ++ '\'' :: tail) = unbroken v ++ post) :
      plainValue? ('\'' :: (v ++ '\'' :: tail)) = some (['\''] ++ unbroken v ++ post) := by
    rw [h, unbroken] at hopen
    rw [plainValue?, hopen]
    rfl
  have happend : unbroken (v ++ '\'' :: tail) = if (unbroken v).length = v.length then
      v ++ unbroken ('\'' :: tail) else unbroken v := List.takeWhile_append
  split at happend
  · next hwhole =>
    have hself : unbroken v = v := (List.takeWhile_prefix _).eq_of_length hwhole
    exact ⟨['\''], by simp, hread _ (by rw [happend, hend, hself])⟩
  · exact ⟨[], by simp, hread _ (by rw [happend, List.append_nil])⟩

theorem defaultWord?_literal (hfront : Text.search (Text.wholeKeyword? "DEFAULT") front = none)
    (htail : tail.head?.all Text.isBlank = true) (v : Text) :
    ∃ post, (∀ c ∈ post, c = '\'') ∧
      defaultWord? (aroundLiteral (front ++ " DEFAULT ".toList) v tail) =
        some (['\''] ++ unbroken v ++ post) := by
  obtain ⟨post, hpost, hvalue⟩ := plainValue?_literal htail v
  refine ⟨post, hpost, ?_⟩
  have hk : IsKeyword "DEFAULT".toList := by decide
  have htext : aroundLiteral (front ++ " DEFAULT ".toList) v tail =
      front ++ ' ' :: ("DEFAULT".toList ++ ' ' :: '\'' :: (v ++ '\'' :: tail)) := by
    simp [aroundLiteral]
  have hread : (Text.afterCapitals "DEFAULT".toList ("DEFAULT".toList ++
      ' ' :: '\'' :: (v ++ '\'' :: tail)) >>= fun t => Text.gap? t >>= plainValue?) =
        some (['\''] ++ unbroken v ++ post) := by
    rw [hk.afterCapitals, Option.bind_eq_bind, Option.bind_some, Text.gap?_blank,
      Text.skipBlanks_cons (by decide), Option.bind_some, hvalue]
  rw [htext, defaultWord?_behind rfl hfront, passes_default.mark (by decide), defaultWord?_eq]
  exact (search_eq_read (Option.isSome_of_mem hread)).trans hread

/-- The default of a literal is its part in front of the first blank or comma, so the whole literal
exactly where it has none; the null value is none. -/
theorem columnDefault?_literal (hfront : Text.search (Text.wholeKeyword? "DEFAULT") front = none)
    (hv : Unquoted v) (htail : tail.head?.all Text.isBlank = true) :
    let default := columnDefault? (aroundLiteral (front ++ " DEFAULT ".toList) v tail)
    default = (if Text.upper (unbroken v) = "NULL".toList then none else some (unbroken v)) ∧
    (Text.upper v ≠ "NULL".toList →
      (default = some v ↔ ∀ c ∈ v, Text.isBlank c = false ∧ c ≠ ',')) := by
  intro default
  obtain ⟨post, hpost, hword⟩ := defaultWord?_literal hfront htail v
  have hdefault : default =
      if Text.upper (unbroken v) = "NULL".toList then none else some (unbroken v) := by
    have hstrip : stripQuotes (['\''] ++ unbroken v ++ post) = unbroken v :=
      stripQuotes_around (by simp) hpost hv.unbroken
    simp only [default, columnDefault?, hword, Option.map_some, hstrip, Option.filter_some]
    by_cases hnull : Text.upper (unbroken v) = "NULL".toList <;> simp [hnull]
  refine ⟨hdefault, fun hnull => ?_⟩
  rw [hdefault, ← unbroken_eq_self_iff]
  constructor
  · intro h
    split at h
    · cases h
    · exact Option.some.inj h
  · intro h
    rw [h, if_neg hnull]

/-- A literal with a parenthesis in it is kept whole. -/
theorem columnDefault?_literal_code :
    columnDefault? (aroundLiteral ("c VARCHAR(20)".toList ++ " DEFAULT ".toList) "(a)".toList
      " NOT NULL".toList) = some "(a)".toList :=
  (columnDefault?_literal (by decide) (by decide) (by decide)).2 (by decide) |>.mpr
    (by simp; decide)

/-- Of a literal with a blank in it the rest is lost. -/
theorem columnDefault?_broken_literal :
    ¬∀ v : Text, Unquoted v → '\\' ∉ v → Text.upper v ≠ "NULL".toList →
      ∀ tail ∈ ["", " NOT NULL", " UNIQUE", " COMMENT"],
        columnDefault? (aroundLiteral "c VARCHAR(20) DEFAULT ".toList v tail.toList) = some v := by
  intro h
  have hwhole := h "a b".toList (by decide) (by decide) (by decide) "" (by decide)
  exact absurd hwhole (by decide)

end SchemaDiagram.Sql
