import SchemaDiagram.Proofs.Text.Plain

/-!
Keywords in capitals. What is found in the capitals of a text is found in the text itself when
letter case is passed over.
-/
namespace SchemaDiagram.Text

variable {c : Char} {t r : Text} {f f' g g' : Text → Option Text}

/-- The first recogniser reads from the capitals of a text what the second one reads from it. -/
structure Mirrors (f g : Text → Option Text) : Prop where
  upper : ∀ {t}, Ascii t → f (upper t) = (g t).map upper
  ascii : ∀ {t r}, Ascii t → g t = some r → Ascii r

theorem ascii_cons : Ascii (c :: t) ↔ c.toNat < 128 ∧ Ascii t := List.forall_mem_cons

theorem ascii_append : Ascii (t ++ r) ↔ Ascii t ∧ Ascii r := List.forall_mem_append

theorem isWord_toUpper_of_ascii (h : c.toNat < 128) : isWord c.toUpper = isWord c :=
  ascii_induction h (by decide)

theorem isBlank_toUpper_of_ascii (h : c.toNat < 128) : isBlank c.toUpper = isBlank c :=
  ascii_induction h (by decide)

theorem skipBlanks_upper (ht : Ascii t) : skipBlanks (upper t) = upper (skipBlanks t) := by
  induction t with
  | nil => rfl
  | cons c t ih =>
    obtain ⟨hc, ht⟩ := ascii_cons.mp ht
    have hb := isBlank_toUpper_of_ascii hc
    rw [upper_cons hc]
    by_cases h : isBlank c
    · simpa [skipBlanks, hb, h] using ih ht
    · rw [Bool.not_eq_true] at h
      rw [skipBlanks_cons (hb.trans h), skipBlanks_cons h, upper_cons hc]

theorem atWordEnd_upper (ht : Ascii t) : atWordEnd (upper t) = atWordEnd t := by
  cases t with
  | nil => rfl
  | cons c t =>
    have hc := (ascii_cons.mp ht).1
    simp [upper_cons hc, atWordEnd, isWord_toUpper_of_ascii hc]

theorem after?_cons (a c : Char) (k t : Text) :
    after? (a :: k) (c :: t) = if a == c then after? k t else none := rfl

theorem mirrors_after? (k : Text) : Mirrors (after? k) (afterCapitals k) where
  upper := by
    intro t ht
    induction k generalizing t with
    | nil => rfl
    | cons a k ih =>
      cases t with
      | nil => rfl
      | cons c t =>
        obtain ⟨hc, ht⟩ := ascii_cons.mp ht
        have ih := ih ht
        by_cases h : c.toUpper = a
        · simpa [after?_cons, afterCapitals, upper_cons hc, capital_of_ascii hc, h] using ih
        · simp [after?_cons, afterCapitals, upper_cons hc, capital_of_ascii hc, h, Ne.symm h]
  ascii := by
    intro t r ht h
    induction k generalizing t with
    | nil =>
      cases h
      exact ht
    | cons a k ih =>
      cases t with
      | nil => cases h
      | cons c t =>
        rw [afterCapitals] at h
        split at h
        · exact ih (ascii_cons.mp ht).2 h
        · cases h

theorem mirrors_gap? : Mirrors gap? gap? where
  upper := by
    intro t ht
    cases t with
    | nil => rfl
    | cons c t =>
      obtain ⟨hc, ht⟩ := ascii_cons.mp ht
      by_cases h : isBlank c <;>
        simp [gap?, upper_cons hc, isBlank_toUpper_of_ascii hc, h, skipBlanks_upper ht]
  ascii := by
    intro t r ht h
    cases t with
    | nil => cases h
    | cons c t =>
      rw [gap?] at h
      split at h
      · cases h
        intro d hd
        exact ht d (List.mem_cons_of_mem c ((List.dropWhile_sublist _).subset hd))
      · cases h

theorem Mirrors.bind (h : Mirrors f g) (h' : Mirrors f' g') :
    Mirrors (fun t => f t >>= f') (fun t => g t >>= g') where
  upper := by
    intro t ht
    cases hg : g t with
    | none => simp [h.upper ht, hg]
    | some r => simp [h.upper ht, hg, h'.upper (h.ascii ht hg)]
  ascii := by
    intro t r ht hr
    obtain ⟨r', hg, hg'⟩ := Option.bind_eq_some_iff.mp hr
    exact h'.ascii (h.ascii ht hg) hg'

theorem Mirrors.atWordEnd (h : Mirrors f g) :
    Mirrors (fun t => (f t).filter atWordEnd) (fun t => (g t).filter atWordEnd) where
  upper := by
    intro t ht
    cases hg : g t with
    | none => simp [h.upper ht, hg]
    | some r =>
      have he := atWordEnd_upper (h.ascii ht hg)
      simp only [h.upper ht, hg, Option.map_some, Option.filter_some, he]
      cases Text.atWordEnd r <;> rfl
  ascii := by
    intro t r ht hr
    exact h.ascii ht (Option.filter_eq_some_iff.mp hr).1

theorem Mirrors.searchWord (h : Mirrors f g) (ht : Ascii t) (inWord : Bool) :
    searchWord f inWord (Text.upper t) = (searchWord g inWord t).map Text.upper := by
  induction t generalizing inWord with
  | nil => rfl
  | cons c t ih =>
    obtain ⟨hc, hrest⟩ := ascii_cons.mp ht
    have hread := h.upper ht
    rw [upper_cons hc] at hread ⊢
    cases inWord with
    | true => simp [Text.searchWord, isWord_toUpper_of_ascii hc, ih hrest]
    | false =>
      simp only [Text.searchWord, Bool.false_eq_true, if_false, hread, isWord_toUpper_of_ascii hc,
        ih hrest]
      cases g (c :: t) <;> rfl

end SchemaDiagram.Text
