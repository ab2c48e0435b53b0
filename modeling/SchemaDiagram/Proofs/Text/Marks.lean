import Mathlib.Data.List.Infix
import SchemaDiagram.Proofs.Text.Cutting
import SchemaDiagram.Text.Keyword

/-!
Marks of comments. Most readers take the mark of a comment for the end of the text; the others
either read on past it or find what they find in the text before it alone.
-/
namespace SchemaDiagram

variable {z : Text} {p : Char → Bool}

namespace Text

/-- The kinds of comments. -/
inductive Mark where
  /-- A comment that goes on to the end of its line. -/
  | line
  /-- A comment with a mark at its end. -/
  | block

/-- A comment that says some words. -/
def Mark.say : Mark → Text → Text
  | line, words => "-- ".toList ++ words
  | block, words => "/*".toList ++ words ++ "*/".toList

/-- A text that starts with the mark of a comment. -/
def Opens (z : Text) : Prop := "-- ".toList <+: z ∨ "/*".toList <+: z

theorem Mark.opens_say (m : Mark) (words post : Text) : Opens (m.say words ++ post) := by
  cases m with
  | line => exact Or.inl ⟨words ++ post, by simp [say]⟩
  | block => exact Or.inr ⟨words ++ "*/".toList ++ post, by simp [say]⟩

/-- Characters that no mark of a comment starts with. -/
def Apart (c : Char) : Prop := c ≠ '-' ∧ c ≠ '/'

instance (c : Char) : Decidable (Apart c) := inferInstanceAs (Decidable (_ ∧ _))

instance (t : Text) : Decidable (∀ c ∈ t, Apart c) := List.decidableBAll _ t

theorem Opens.exists_cons (h : Opens z) : ∃ c t, z = c :: t ∧ (c = '-' ∨ c = '/') := by
  rcases h with ⟨t, rfl⟩ | ⟨t, rfl⟩
  · exact ⟨'-', _, rfl, Or.inl rfl⟩
  · exact ⟨'/', _, rfl, Or.inr rfl⟩

/-- A test that fails for the marks of comments ends with the text before them. -/
theorem Opens.dropWhile_append (hz : Opens z) (hp : p '-' = false ∧ p '/' = false) (y : Text) :
    (y ++ z).dropWhile p = y.dropWhile p ++ z := by
  obtain ⟨c, t, rfl, hc⟩ := hz.exists_cons
  have hstop : p c = false := by rcases hc with rfl | rfl <;> simp [hp]
  exact dropWhile_append_mark hstop y t

theorem Opens.takeWhile_append (hz : Opens z) (hp : p '-' = false ∧ p '/' = false) (y : Text) :
    (y ++ z).takeWhile p = y.takeWhile p := by
  obtain ⟨c, t, rfl, hc⟩ := hz.exists_cons
  have hstop : p c = false := by rcases hc with rfl | rfl <;> simp [hp]
  exact takeWhile_append_mark hstop y t

/-- A reader to which the mark of a comment after a text is like the end of the text. -/
def ClearAt (read : Text → Option Text) (y : Text) : Prop :=
  ∀ ⦃z⦄, Opens z → read (y ++ z) = (read y).map (· ++ z)

/-- A reader to which the mark of a comment is like the end of the text everywhere. -/
def Clear (read : Text → Option Text) : Prop :=
  ∀ ⦃z⦄, Opens z → ∀ y, read (y ++ z) = (read y).map (· ++ z)

/-- A reader that, unless it reads on past the mark of a comment, reads what is before it alone. -/
def LocalAt (read : Text → Option Text) (y : Text) : Prop :=
  ∀ ⦃z⦄, Opens z → (∀ r ∈ read (y ++ z), z.length ≤ r.length) →
    read (y ++ z) = (read y).map (· ++ z)

variable {read next : Text → Option Text} {y : Text}

theorem Clear.clearAt (h : Clear read) (y : Text) : ClearAt read y := fun _ hz => h hz y

theorem ClearAt.localAt (h : ClearAt read y) : LocalAt read y := fun _ hz _ => h hz

theorem Clear.localAt (h : Clear read) (y : Text) : LocalAt read y := (h.clearAt y).localAt

theorem Clear.bind (h : Clear read) (hn : Clear next) : Clear fun t => read t >>= next := by
  intro z hz y
  dsimp only
  rw [h hz y]
  cases read y with
  | none => rfl
  | some r => exact hn hz r

theorem ClearAt.bind_localAt (h : ClearAt read y) (hn : ∀ r, LocalAt next r) :
    LocalAt (fun t => read t >>= next) y := by
  intro z hz hstops
  dsimp only at hstops ⊢
  rw [h hz] at hstops ⊢
  cases hr : read y with
  | none => rfl
  | some r =>
    rw [hr] at hstops
    exact hn r hz hstops

theorem LocalAt.or (h : LocalAt read y) (hn : LocalAt next y) :
    LocalAt (fun t => (read t).or (next t)) y := by
  intro z hz hstops
  dsimp only at hstops ⊢
  cases hr : read (y ++ z) with
  | some r =>
    rw [hr, Option.some_or] at hstops
    have hread := h hz (by rw [hr]; exact hstops)
    rw [hr] at hread
    cases hy : read y with
    | none => simp [hy] at hread
    | some r' => simpa [hy] using hread
  | none =>
    have hread := h hz (by simp [hr])
    rw [hr, Option.none_or] at hstops
    rw [hr] at hread
    cases hy : read y with
    | none => simpa [hy] using hn hz hstops
    | some r' => simp [hy] at hread

theorem ClearAt.or (h : ClearAt read y) (hn : ClearAt next y) :
    ClearAt (fun t => (read t).or (next t)) y := by
  intro z hz
  dsimp only
  rw [h hz, hn hz]
  cases read y <;> rfl

theorem Clear.or (h : Clear read) (hn : Clear next) : Clear fun t => (read t).or (next t) :=
  fun _ hz y => (h.clearAt y).or (hn.clearAt y) hz

theorem Clear.filter {test : Text → Bool} (h : Clear read)
    (ht : ∀ ⦃z⦄, Opens z → ∀ y, test (y ++ z) = test y) : Clear fun t => (read t).filter test := by
  intro z hz y
  dsimp only
  rw [h hz y]
  cases read y with
  | none => rfl
  | some r => simp only [Option.map_some, Option.filter_some, ht hz]; split <;> rfl

theorem after?_eq_some_iff {start t r : Text} : after? start t = some r ↔ t = start ++ r := by
  induction start generalizing t with
  | nil => simp [after?, List.isPrefixOf?, eq_comm]
  | cons c start ih =>
    cases t with
    | nil => simp [after?, List.isPrefixOf?]
    | cons d t =>
      simp only [after?, List.isPrefixOf?] at ih ⊢
      by_cases hcd : c = d
      · simp [hcd, ih]
      · simp [hcd, Ne.symm hcd]

/-- A start that is found is found before the mark, or the mark belongs to it. -/
theorem localAt_after? (start y : Text) : LocalAt (after? start) y := by
  intro z _ hstops
  cases hr : after? start (y ++ z) with
  | none =>
    cases hy : after? start y with
    | none => rfl
    | some r =>
      rw [after?_eq_some_iff] at hy
      have hfound : after? start (y ++ z) = some (r ++ z) := by
        rw [after?_eq_some_iff, hy, List.append_assoc]
      simp [hr] at hfound
  | some r =>
    have hlength := hstops r hr
    rw [after?_eq_some_iff] at hr
    rcases List.append_eq_append_iff.mp hr with ⟨w, hstart, hz⟩ | ⟨w, hy, hr⟩
    · have hshort := congrArg List.length hz
      rw [List.length_append] at hshort
      obtain rfl : w = [] := List.length_eq_zero_iff.mp (by omega)
      have hy : after? start y = some [] := by simpa [after?_eq_some_iff] using hstart.symm
      simpa [hy] using hz.symm
    · rw [after?_eq_some_iff.mpr hy, hr]
      rfl

theorem findSome?_cons_or {α β : Type} (f : α → Option β) (a : α) (as : List α) :
    (a :: as).findSome? f = (f a).or (as.findSome? f) := by
  cases h : f a <;> simp [h]

/-- Where less is left than there was, a reader that goes on at the mark reads past it. -/
theorem localAt_nil (h : ∀ t, ∀ r ∈ read t, r.length < t.length) : LocalAt read [] := by
  intro z _ hstops
  have hnone : ∀ t, (∀ r ∈ read t, t.length ≤ r.length) → read t = none := by
    intro t ht
    cases hr : read t with
    | none => rfl
    | some r => exact absurd (ht r hr) (by have := h t r hr; omega)
  rw [List.nil_append] at hstops ⊢
  rw [hnone z hstops, hnone [] fun _ _ => Nat.zero_le _]
  rfl

theorem after?_shorter {start t r : Text} (hstart : start ≠ []) (h : after? start t = some r) :
    r.length < t.length := by
  rw [after?_eq_some_iff] at h
  have hpos := List.length_pos_iff.mpr hstart
  rw [h, List.length_append]
  omega

theorem localAt_findSome? {α : Type} {read : α → Text → Option Text} (as : List α)
    (h : ∀ a ∈ as, LocalAt (read a) y) : LocalAt (fun t => as.findSome? (read · t)) y := by
  induction as with
  | nil => exact fun _ _ _ => rfl
  | cons a as ih =>
    obtain ⟨ha, has⟩ := List.forall_mem_cons.mp h
    simpa only [findSome?_cons_or] using ha.or (ih has)

/-- The first of some readers that finds something, with a tag of that reader. -/
theorem findSome?_append {α β : Type} {g : α → β} {read : α → Text → Option Text} (hz : Opens z)
    (as : List α) (h : ∀ a ∈ as, LocalAt (read a) y)
    (hstops : ∀ found ∈ as.findSome? fun a => (read a (y ++ z)).map (g a, ·),
      z.length ≤ found.2.length) :
    (as.findSome? fun a => (read a (y ++ z)).map (g a, ·)) =
      (as.findSome? fun a => (read a y).map (g a, ·)).map fun found => (found.1, found.2 ++ z) := by
  induction as with
  | nil => rfl
  | cons a as ih =>
    obtain ⟨ha, has⟩ := List.forall_mem_cons.mp h
    rw [findSome?_cons_or] at hstops
    rw [findSome?_cons_or, findSome?_cons_or]
    have hread : read a (y ++ z) = (read a y).map (· ++ z) := by
      refine ha hz fun r hr => hstops (g a, r) ?_
      rw [hr]
      rfl
    rw [hread] at hstops ⊢
    cases hr : read a y with
    | some r => rfl
    | none =>
      rw [hr] at hstops
      exact ih has hstops

theorem clear_after? {start : Text} (h : ∀ c ∈ start, Apart c) : Clear (after? start) := by
  intro z hz y
  induction start generalizing y with
  | nil => rfl
  | cons s start ih =>
    obtain ⟨hs, hstart⟩ := List.forall_mem_cons.mp h
    cases y with
    | nil =>
      obtain ⟨c, t, rfl, hc⟩ := hz.exists_cons
      have hne : (s == c) = false := by
        rcases hc with rfl | rfl
        · simpa using hs.1
        · simpa using hs.2
      simp [after?, List.isPrefixOf?, hne]
    | cons d y =>
      have ih := ih hstart y
      simp only [after?] at ih
      simp only [after?, List.isPrefixOf?, List.cons_append, ih]
      split <;> rfl

/-- Only the first character of what is looked for may start a mark. -/
theorem clearAt_after? {start : Text} (s : Char) (h : ∀ c ∈ start, Apart c) (hy : y ≠ []) :
    ClearAt (after? (s :: start)) y := by
  intro z hz
  cases y with
  | nil => exact absurd rfl hy
  | cons d y =>
    have hrest := clear_after? h hz y
    simp only [after?] at hrest
    simp only [after?, List.isPrefixOf?, List.cons_append, hrest]
    split <;> rfl

theorem clear_gap? : Clear gap? := by
  intro z hz y
  have hblank := hz.dropWhile_append (p := isBlank) (by decide)
  cases y with
  | nil =>
    obtain ⟨c, t, rfl, hc⟩ := hz.exists_cons
    have hb : isBlank c = false := by rcases hc with rfl | rfl <;> decide
    simp [gap?, hb]
  | cons c y =>
    cases hb : isBlank c <;> simp [gap?, hb, skipBlanks, hblank]

theorem clear_afterCapitals {k : Text} (h : ∀ c ∈ k, Apart c) : Clear (afterCapitals k) := by
  intro z hz y
  induction k generalizing y with
  | nil => rfl
  | cons k ks ih =>
    obtain ⟨hk, hks⟩ := List.forall_mem_cons.mp h
    cases y with
    | nil =>
      obtain ⟨c, t, rfl, hc⟩ := hz.exists_cons
      have hne : capital c ≠ k := by
        have hcapital : capital c = c := by rcases hc with rfl | rfl <;> decide
        rw [hcapital]
        rcases hc with rfl | rfl
        · exact hk.1.symm
        · exact hk.2.symm
      simp [afterCapitals, hne]
    | cons d y =>
      simp only [List.cons_append, afterCapitals, ih hks y]
      split <;> rfl

theorem clear_keyword? {k : String} (h : ∀ c ∈ k.toList, Apart c) : Clear (keyword? k) :=
  clear_afterCapitals h

theorem clear_keywordGap? {k : String} (h : ∀ c ∈ k.toList, Apart c) : Clear (keywordGap? k) :=
  (clear_keyword? h).bind clear_gap?

theorem Opens.atWordEnd_append (hz : Opens z) (y : Text) : atWordEnd (y ++ z) = atWordEnd y := by
  cases y with
  | nil =>
    obtain ⟨c, t, rfl, hc⟩ := hz.exists_cons
    have hw : isWord c = false := by rcases hc with rfl | rfl <;> decide
    simp [atWordEnd, hw]
  | cons c y => rfl

theorem clear_wholeKeyword? {k : String} (h : ∀ c ∈ k.toList, Apart c) : Clear (wholeKeyword? k) :=
  (clear_keyword? h).filter fun _ hz => hz.atWordEnd_append

theorem clear_findSome? {α : Type} {read : α → Text → Option Text} (as : List α)
    (h : ∀ a ∈ as, Clear (read a)) : Clear fun t => as.findSome? (read · t) := by
  intro z hz y
  induction as with
  | nil => rfl
  | cons a as ih =>
    obtain ⟨ha, has⟩ := List.forall_mem_cons.mp h
    dsimp only at ih ⊢
    rw [findSome?_cons_or, findSome?_cons_or, ha hz y, ih has, Option.map_or]

theorem Opens.word?_append (hz : Opens z) (y : Text) :
    word? (y ++ z) = (word? y).map fun found => (found.1, found.2 ++ z) := by
  have htake := hz.takeWhile_append (p := isWord) (by decide) y
  have hdrop := hz.dropWhile_append (p := isWord) (by decide) y
  unfold word? word
  rw [htake, hdrop]
  cases y.takeWhile isWord <;> rfl

end Text
end SchemaDiagram
