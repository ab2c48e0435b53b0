import SchemaDiagram.Proofs.Sql.Keywords
import SchemaDiagram.Proofs.Sql.Types
import SchemaDiagram.Proofs.Text.Capitals

/-!
Reading the constraints of a column back. Each is found by a search through the whole definition,
which comes upon its keyword exactly when the constraint was written.
-/
namespace SchemaDiagram

open Sql

variable {α : Type} {find : Text → Option α} {misses : Text → Prop} {read : Text → Option α}
  {c : Column} {r : Reference} {scope : List Text} {t : Text} {first second : String}

namespace Column

theorem pointer_cases (c : Column) (scope : List Text) :
    c.pointer scope = [] ∨ ∃ t, c.pointer scope = ' ' :: t := by
  unfold pointer
  split
  · next r _ => exact Or.inr ⟨_, r.print_eq scope⟩
  · exact Or.inl rfl

theorem ends_pointer (c : Column) (scope : List Text) : Ends (c.pointer scope) := by
  rcases c.pointer_cases scope with h | ⟨t, h⟩ <;> simp [h, Ends]

theorem ends_clauses (c : Column) (scope : List Text) : Ends (c.clauses scope) :=
  ends_spaced _ (c.ends_pointer scope)

end Column

namespace Sql

theorem Passes.reference (h : Passes find misses) (hs : ∀ q ∈ scope, IsName q)
    (hr : IsName r.table ∧ IsName r.column) (hm : misses "REFERENCES".toList) :
    find (r.print scope) = find [] := by
  rw [r.print_eq, h.mark (by decide), h.word (by decide) hm rfl,
    h.mark (by decide), h.chain hs hr.1, h.mark (by decide),
    h.mark (by decide), h.tick hr.2, h.mark (by decide)]

/-- A search passes over the name and the type of a column. -/
theorem Passes.print (h : Passes find misses) (hc : c.Printable)
    (hm : ∀ w : TypeWord, w.Valid → misses w.word) :
    find (c.print scope) = find (c.clauses scope) := by
  obtain ⟨words, hv, hspaced⟩ := hc.type.exists_spaced
  rw [Column.print, List.append_assoc, h.tick hc.name, hspaced]
  exact h.types (fun w hw => ⟨hv w hw, hm w (hv w hw)⟩) (c.ends_clauses scope)

theorem Passes.pointer (h : Passes find misses) (hs : ∀ q ∈ scope, IsName q) (hc : c.Printable)
    (hm : misses "REFERENCES".toList) : find (c.pointer scope) = find [] := by
  unfold Column.pointer
  split
  · next r hr => exact h.reference hs (hc.reference r hr) hm
  · rfl

/-- A search for a constraint finds it where it was written. -/
theorem searchWord_print {holds : Bool} (more : List String) (pre post : List Text)
    (h : Passes (Text.searchWord read false) (fun w => Text.upper w ≠ first.toList))
    (hfirst : first ∈ typeStops) (hk : IsKeyword first.toList)
    (href : Text.upper "REFERENCES".toList ≠ first.toList) (hs : ∀ q ∈ scope, IsName q)
    (hc : c.Printable) (hw : c.constraints = pre ++ (flag holds (first :: more) ++ post))
    (hpre : ∀ w ∈ pre, Text.upper w ≠ first.toList)
    (hpost : ∀ w ∈ post, Text.upper w ≠ first.toList)
    (hread : ∀ r, Ends r →
      (read (first.toList ++ (spaced (more.map String.toList) ++ r))).isSome = true) :
    (Text.searchWord read false (c.print scope)).isSome = holds := by
  have hplain := hc.plain_constraints
  have hends := c.ends_pointer scope
  rw [hw] at hplain
  simp only [List.forall_mem_append] at hplain
  obtain ⟨hppre, -, hppost⟩ := hplain
  have hclauses : c.clauses scope =
      spaced pre ++ (spaced (flag holds (first :: more)) ++ (spaced post ++ c.pointer scope)) := by
    simp only [Column.clauses, hw, spaced, List.flatMap_append, List.append_assoc]
  rw [h.print hc fun w hv => upper_ne_of_typeStop hv.notStop hfirst, hclauses,
    h.spaced (fun w hm => ⟨hppre w hm, hpre w hm⟩) (ends_spaced _ (ends_spaced _ hends))]
  cases holds with
  | false =>
    have hnil : spaced (flag false (first :: more)) = [] := rfl
    rw [hnil, List.nil_append, h.spaced (fun w hm => ⟨hppost w hm, hpost w hm⟩) hends,
      h.pointer hs hc href]
    rfl
  | true =>
    have hflag : ∀ r, spaced (flag true (first :: more)) ++ r =
        ' ' :: (first.toList ++ (spaced (more.map String.toList) ++ r)) := by
      intro r
      simp only [flag, if_true, spaced, List.map_cons, List.flatMap_cons, List.append_assoc,
        List.cons_append]
    have hfound := hread _ (ends_spaced post hends)
    rw [hflag, h.mark (by decide), searchWord_eq_read (by simp [hk.1]) hfound]
    exact hfound

/-- The words in question are found by a search that looks for the first one. -/
theorem passes_words (hk : IsKeyword first.toList) :
    Passes (Text.searchWord (fun t => Text.afterCapitals first.toList t >>=
        fun t => Text.gap? t >>= Text.wholeKeyword? second) false)
      (fun w => Text.upper w ≠ first.toList) := by
  apply passes_searchWord hk
  · intro c t hc
    simp [Text.gap?_of_isPlain hc]
  · intro q w r _ _
    cases q <;> rfl

theorem hasWords_upper (ht : Text.Ascii t) :
    hasWords first second (Text.upper t) =
      (Text.searchWord (fun t => Text.afterCapitals first.toList t >>=
        fun t => Text.gap? t >>= Text.wholeKeyword? second) false t).isSome := by
  have h := ((Text.mirrors_after? first.toList).bind
    (Text.mirrors_gap?.bind (Text.mirrors_after? second.toList).atWordEnd)).searchWord ht false
  have h := congrArg Option.isSome h
  rw [Option.isSome_map] at h
  exact h

theorem read_words (first second : String) (hf : IsKeyword first.toList)
    (hs : IsKeyword second.toList) {r : Text} (hr : Ends r) :
    (Text.afterCapitals first.toList (first.toList ++ (spaced [second.toList] ++ r)) >>=
      fun t => Text.gap? t >>= Text.wholeKeyword? second) = some r := by
  have hspaced : spaced [second.toList] ++ r = ' ' :: (second.toList ++ r) := by simp [spaced]
  rw [hf.afterCapitals, Option.bind_eq_bind, Option.bind_some, hspaced, Text.gap?_blank,
    Text.skipBlanks_append hs.plain hs.1, Option.bind_some,
    hs.wholeKeyword? hr.atWordEnd]

/-- Names that are this keyword are left out, so a search for it finds none of them. -/
theorem passes_unique :
    Passes (Text.searchWord (Text.wholeKeyword? "UNIQUE") false)
      (fun w => Text.upper w ≠ "UNIQUE".toList) := by
  have hread : Text.wholeKeyword? "UNIQUE" =
      fun t => Text.afterCapitals "UNIQUE".toList t >>= Option.guard Text.atWordEnd := by
    funext t
    exact (Option.bind_guard _ _).symm
  rw [hread]
  apply passes_searchWord (by decide)
  · intro c t hc
    simp [Option.guard, Text.atWordEnd, Text.isWord_of_isPlain hc]
  · intro q w r hw he
    exact (hw.notUnique he).elim

theorem hasWord_upper (ht : Text.Ascii t) :
    hasWord first (Text.upper t) =
      (Text.searchWord (Text.wholeKeyword? first) false t).isSome := by
  have h := (Text.mirrors_after? first.toList).atWordEnd.searchWord ht false
  have h := congrArg Option.isSome h
  rw [Option.isSome_map] at h
  exact h

end Sql

namespace Column.Printable

/-- The words of a default miss every keyword that ends a type, but for the one before it. -/
theorem defaultWords_ne (hc : c.Printable) (hk : first ∈ typeStops)
    (hne : Text.upper "DEFAULT".toList ≠ first.toList) :
    ∀ w ∈ c.defaultWords, Text.upper w ≠ first.toList :=
  forall_mem_defaultWords fun v hv => ⟨hne, upper_ne_of_typeStop (hc.default v hv).notStop hk⟩

theorem hasWords_notNull (hc : c.Printable) (hs : ∀ q ∈ scope, IsName q)
    (ht : Text.Ascii (c.print scope)) :
    hasWords "NOT" "NULL" (Text.upper (c.print scope)) = !c.nullable := by
  rw [hasWords_upper ht]
  apply searchWord_print ["NULL"] []
    (flag c.isUnique ["UNIQUE"] ++ (flag c.isPrimary ["PRIMARY", "KEY"] ++ c.defaultWords))
    (passes_words (by decide)) (by decide) (by decide) (by decide)
    hs hc rfl (by simp)
  · simp only [List.forall_mem_append]
    exact ⟨forall_mem_flag fun _ => by decide, forall_mem_flag fun _ => by decide,
      hc.defaultWords_ne (by decide) (by decide)⟩
  · intro r hr
    exact Option.isSome_of_mem
      (read_words "NOT" "NULL" (by decide) (by decide) hr)

theorem hasWord_unique (hc : c.Printable) (hs : ∀ q ∈ scope, IsName q)
    (ht : Text.Ascii (c.print scope)) :
    hasWord "UNIQUE" (Text.upper (c.print scope)) = c.isUnique := by
  rw [hasWord_upper ht]
  apply searchWord_print [] (flag (!c.nullable) ["NOT", "NULL"])
    (flag c.isPrimary ["PRIMARY", "KEY"] ++ c.defaultWords)
    passes_unique (by decide) (by decide) (by decide) hs hc rfl
  · exact forall_mem_flag fun _ => by decide
  · simp only [List.forall_mem_append]
    exact ⟨forall_mem_flag fun _ => by decide,
      hc.defaultWords_ne (by decide) (by decide)⟩
  · intro r hr
    have hk : IsKeyword "UNIQUE".toList := by decide
    exact Option.isSome_of_mem (hk.wholeKeyword? hr.atWordEnd)

theorem hasWords_primary (hc : c.Printable) (hs : ∀ q ∈ scope, IsName q)
    (ht : Text.Ascii (c.print scope)) :
    hasWords "PRIMARY" "KEY" (Text.upper (c.print scope)) = c.isPrimary := by
  rw [hasWords_upper ht]
  apply searchWord_print ["KEY"]
    (flag (!c.nullable) ["NOT", "NULL"] ++ flag c.isUnique ["UNIQUE"])
    c.defaultWords (passes_words (by decide)) (by decide)
    (by decide) (by decide) hs hc
  · simp only [constraints, List.append_assoc]
  · simp only [List.forall_mem_append]
    exact ⟨forall_mem_flag fun _ => by decide, forall_mem_flag fun _ => by decide⟩
  · exact hc.defaultWords_ne (by decide) (by decide)
  · intro r hr
    exact Option.isSome_of_mem
      (read_words "PRIMARY" "KEY" (by decide) (by decide) hr)

end Column.Printable
end SchemaDiagram
