import SchemaDiagram.Proofs.Diagram.Contents

/-!
What a label may hold. No sign of a diagram is left in a label but one: two hyphens that stood apart
in the text come side by side where the signs between them are taken out.
-/
namespace SchemaDiagram.Diagram

variable {t p q s u w : Text} {c : Char}

/-- No two hyphens stand side by side. -/
def Single (t : Text) : Prop := t.IsChain fun c d => ¬(c = '-' ∧ d = '-')

theorem single_iff : Single t ↔ ∀ p q, t ≠ p ++ '-' :: '-' :: q := by
  rw [Single, List.isChain_iff_forall_rel_of_append_cons_cons]
  constructor
  · intro h p q ht
    exact h ht ⟨rfl, rfl⟩
  · rintro h a b p q ht ⟨rfl, rfl⟩
    exact h p q ht

theorem infix_hyphens_iff : "--".toList <:+: t ↔ ¬ Single t := by
  rw [single_iff]
  constructor
  · rintro ⟨p, q, rfl⟩ h
    exact h p q (List.append_assoc p ['-', '-'] q)
  · intro h
    push Not at h
    obtain ⟨p, q, rfl⟩ := h
    exact ⟨p, q, List.append_assoc p ['-', '-'] q⟩

theorem single_cons : Single (c :: t) ↔ ¬(c = '-' ∧ t.head? = some '-') ∧ Single t := by
  rw [Single, List.isChain_cons]
  refine and_congr_left fun _ => ?_
  cases t <;> simp

theorem single_of_not_mem (h : '-' ∉ t) : Single t := by
  rw [single_iff]
  rintro p q rfl
  exact h (by simp)

theorem single_map {f : Char → Char} (hf : ∀ c, f c = '-' ↔ c = '-') :
    Single (t.map f) ↔ Single t := by
  simp only [Single, List.isChain_map, hf]

theorem single_around (hp : '-' ∉ p) (hq : '-' ∉ q) : Single (p ++ (t ++ q)) ↔ Single t := by
  have hlast : ∀ c ∈ p.getLast?, c ≠ '-' := fun c hc he =>
    hp (he ▸ List.mem_of_getLast? (by simpa using hc))
  have hhead : ∀ c ∈ q.head?, c ≠ '-' := fun c hc he =>
    hq (he ▸ List.mem_of_head? (by simpa using hc))
  have hp := single_of_not_mem hp
  have hq := single_of_not_mem hq
  rw [Single, List.isChain_append, List.isChain_append]
  constructor
  · exact fun h => h.2.1.1
  · exact fun h => ⟨hp, ⟨h, hq, fun _ _ d hd he => hhead d hd he.2⟩,
      fun c hc _ _ he => hlast c hc he.1⟩

theorem not_mem_of_allBlank (h : Text.allBlank t = true) : '-' ∉ t :=
  fun hm => absurd (List.all_eq_true.mp h '-' hm) (by decide)

theorem single_trim (t : Text) : Single (Text.trim t) ↔ Single t := by
  have hfront : Text.allBlank (t.takeWhile Text.isBlank) = true := List.all_takeWhile
  obtain ⟨blanks, hblanks, hend⟩ := Text.exists_trimEnd (Text.skipBlanks t)
  have ht : t = t.takeWhile Text.isBlank ++ (Text.trim t ++ blanks) := by
    rw [Text.trim, ← hend, Text.skipBlanks, List.takeWhile_append_dropWhile]
  rw [← single_around (not_mem_of_allBlank hfront) (not_mem_of_allBlank hblanks), ← ht]

/-- Two hyphens stand side by side, and the second one begins no arrow. -/
def KeepsHyphens (t : Text) : Prop := ∃ p q, t = p ++ '-' :: '-' :: q ∧ q.head? ≠ some '>'

theorem keepsHyphens_cons : KeepsHyphens (c :: t) ↔
    (c = '-' ∧ ∃ q, t = '-' :: q ∧ q.head? ≠ some '>') ∨ KeepsHyphens t := by
  constructor
  · rintro ⟨p, q, h, hq⟩
    cases p with
    | nil =>
      obtain ⟨rfl, rfl⟩ := List.cons.inj h
      exact Or.inl ⟨rfl, q, rfl, hq⟩
    | cons d p => exact Or.inr ⟨p, q, (List.cons.inj h).2, hq⟩
  · rintro (⟨rfl, q, rfl, hq⟩ | ⟨p, q, rfl, hq⟩)
    · exact ⟨[], q, rfl, hq⟩
    · exact ⟨c :: p, q, rfl, hq⟩

/-- A hyphen at the front stays one unless it begins an arrow. -/
theorem head?_joinArrows (t : Text) : (joinArrows t).head? = some '-' ↔
    ∃ q, t = '-' :: q ∧ q.head? ≠ some '>' := by
  fun_cases joinArrows t with
  | case1 => simp
  | case2 t => simp
  | case3 c t hne =>
    have harrow : c = '-' → t.head? ≠ some '>' := by
      intro hc ht
      obtain ⟨q, rfl⟩ := List.head?_eq_some_iff.mp ht
      exact hne q hc rfl
    simpa using harrow

theorem single_joinArrows (t : Text) : Single (joinArrows t) ↔ ¬ KeepsHyphens t := by
  fun_induction joinArrows t with
  | case1 => simp [Single, KeepsHyphens]
  | case2 t ih =>
    rw [single_cons, ih, keepsHyphens_cons, keepsHyphens_cons]
    simp
  | case3 c t _ ih =>
    rw [single_cons, ih, head?_joinArrows, keepsHyphens_cons, not_or]

theorem joinHyphens_cons (h : c ≠ '-' ∨ t.head? ≠ some '-') :
    joinHyphens (c :: t) = c :: joinHyphens t := by
  rw [joinHyphens]
  rintro u rfl rfl
  simp at h

theorem joinHyphens_append (h : p.getLast? ≠ some '-') (r : Text) :
    joinHyphens (p ++ r) = joinHyphens p ++ joinHyphens r := by
  fun_induction joinHyphens p with
  | case1 => rfl
  | case2 p ih =>
    have hp : p ≠ [] := by
      rintro rfl
      exact h rfl
    have hlast : p.getLast? ≠ some '-' := by
      rwa [List.getLast?_cons_cons, List.getLast?_cons_of_ne_nil hp] at h
    exact congrArg ('—' :: ·) (ih hlast)
  | case3 c p hne ih =>
    cases p with
    | nil =>
      have hc : c ≠ '-' := by
        rintro rfl
        exact h rfl
      exact joinHyphens_cons (Or.inl hc)
    | cons d p =>
      rw [List.getLast?_cons_cons] at h
      have hpair : c ≠ '-' ∨ (d :: p ++ r).head? ≠ some '-' := by
        by_cases hc : c = '-'
        · exact Or.inr fun hd => hne p hc (by simpa using hd)
        · exact Or.inl hc
      rw [List.cons_append, joinHyphens_cons hpair, ih h, List.cons_append]

/-- Of an odd number of hyphens the last one has no partner. -/
theorem joinHyphens_odd (k : Nat) (h : q.head? ≠ some '-') :
    joinHyphens (List.replicate (2 * k + 1) '-' ++ q) =
      List.replicate k '—' ++ '-' :: joinHyphens q := by
  induction k with
  | zero => exact joinHyphens_cons (Or.inr h)
  | succ k ih => exact congrArg ('—' :: ·) ih

/-- A hyphen that is left stands at the end of an odd number of them. -/
theorem exists_odd_of_joinHyphens (h : joinHyphens t = u ++ '-' :: w) :
    ∃ p k q, t = p ++ (List.replicate (2 * k + 1) '-' ++ q) ∧ p.getLast? ≠ some '-' ∧
      q.head? ≠ some '-' ∧ joinHyphens p ++ List.replicate k '—' = u ∧ joinHyphens q = w := by
  fun_induction joinHyphens t generalizing u with
  | case1 => simp at h
  | case2 t ih =>
    cases u with
    | nil => exact absurd (List.cons.inj h).1 (by decide)
    | cons d u =>
      obtain ⟨rfl, hrest⟩ := List.cons.inj h
      obtain ⟨p, k, q, rfl, hp, hq, rfl, rfl⟩ := ih hrest
      cases p with
      | nil => exact ⟨[], k + 1, q, rfl, hp, hq, rfl, rfl⟩
      | cons a p => exact ⟨'-' :: '-' :: a :: p, k, q, rfl, by simpa using hp, hq, rfl, rfl⟩
  | case3 c t hne ih =>
    cases u with
    | nil =>
      obtain ⟨rfl, rfl⟩ := List.cons.inj h
      refine ⟨[], 0, t, rfl, by simp, fun ht => ?_, rfl, rfl⟩
      obtain ⟨q, rfl⟩ := List.head?_eq_some_iff.mp ht
      exact hne q rfl rfl
    | cons d u =>
      obtain ⟨rfl, hrest⟩ := List.cons.inj h
      obtain ⟨p, k, q, rfl, hp, hq, rfl, rfl⟩ := ih hrest
      cases p with
      | nil =>
        have hc : c ≠ '-' := fun hc => hne _ hc rfl
        exact ⟨[c], k, q, rfl, by simpa using hc, hq, by rw [joinHyphens_cons (Or.inl hc)]; rfl, rfl⟩
      | cons a p =>
        have hpair : c ≠ '-' ∨ (a :: p).head? ≠ some '-' := by
          by_cases hc : c = '-'
          · exact Or.inr fun ha => hne _ hc (by rw [Option.some.inj ha]; rfl)
          · exact Or.inl hc
        exact ⟨c :: a :: p, k, q, rfl, by simpa using hp, hq, by rw [joinHyphens_cons hpair]; rfl, rfl⟩

/-- Two hyphens that only braces, brackets and bars hold apart. The first one is the last of an odd
number, the second one stands alone and begins no arrow. -/
structure HeldApart (p : Text) (n : Nat) (s q : Text) : Prop where
  front : p.getLast? ≠ some '-'
  odd : Odd n
  gap : s ≠ []
  frames : ∀ c ∈ s, isFrame c = true
  lone : q.head? ≠ some '-'
  arrowless : q.find? (!isFrame ·) ≠ some '>'

theorem joinHyphens_of_frames (h : ∀ c ∈ joinHyphens s, isFrame c = true) : joinHyphens s = s := by
  fun_induction joinHyphens s with
  | case1 => rfl
  | case2 s _ => exact absurd (h '—' List.mem_cons_self) (by decide)
  | case3 c s _ ih => rw [ih (List.forall_mem_cons.mp h).2]

theorem joinHyphens_of_not_mem (h : '-' ∉ s) : joinHyphens s = s := by
  fun_induction joinHyphens s with
  | case1 => rfl
  | case2 s _ => exact absurd List.mem_cons_self h
  | case3 c s _ ih => rw [ih (fun hm => h (List.mem_cons_of_mem c hm))]

theorem not_mem_of_frames (h : ∀ c ∈ s, isFrame c = true) : '-' ∉ s :=
  fun hm => absurd (h '-' hm) (by decide)

/-- Joining pairs of hyphens neither puts a greater-than sign first nor takes one away. -/
theorem find?_joinHyphens (t : Text) :
    (joinHyphens t).find? (!isFrame ·) = some '>' ↔ t.find? (!isFrame ·) = some '>' := by
  fun_induction joinHyphens t with
  | case1 => rfl
  | case2 t _ =>
    have hdash : (!isFrame '—') = true ∧ (!isFrame '-') = true := by decide
    simp [hdash]
  | case3 c t _ ih => by_cases hc : isFrame c = true <;> simp [hc, ih]

theorem joinHyphens_heldApart {n : Nat} (h : HeldApart p n s q) : ∃ k,
    joinHyphens (p ++ (List.replicate n '-' ++ (s ++ '-' :: q))) =
      joinHyphens p ++ (List.replicate k '—' ++ '-' :: (s ++ '-' :: joinHyphens q)) := by
  obtain ⟨k, rfl⟩ := h.odd
  have hs := not_mem_of_frames h.frames
  have hhead : (s ++ '-' :: q).head? ≠ some '-' := by
    obtain ⟨c, s, rfl⟩ := List.exists_cons_of_ne_nil h.gap
    exact fun hc => hs (Option.some.inj hc ▸ List.mem_cons_self)
  have hlast : s.getLast? ≠ some '-' := fun hc => hs (List.mem_of_getLast? hc)
  refine ⟨k, ?_⟩
  rw [joinHyphens_append h.front, joinHyphens_odd k hhead, joinHyphens_append hlast,
    joinHyphens_of_not_mem hs, joinHyphens_cons (Or.inr h.lone)]

theorem exists_heldApart (h : joinHyphens t = u ++ '-' :: (s ++ '-' :: w))
    (hs : ∀ c ∈ s, isFrame c = true) (hw : w.find? (!isFrame ·) ≠ some '>') :
    ∃ p n q, t = p ++ (List.replicate n '-' ++ (s ++ '-' :: q)) ∧ HeldApart p n s q := by
  obtain ⟨p, k, r, rfl, hp, hr, -, hrest⟩ := exists_odd_of_joinHyphens h
  obtain ⟨s', j, q, rfl, -, hq, hgap, rfl⟩ := exists_odd_of_joinHyphens hrest
  obtain rfl : j = 0 := by
    cases j with
    | zero => rfl
    | succ j => exact absurd (hs '—' (by simp [← hgap, List.replicate_succ])) (by decide)
  obtain rfl : s' = s := by
    simp only [List.replicate_zero, List.append_nil] at hgap
    rw [← hgap] at hs ⊢
    exact (joinHyphens_of_frames hs).symm
  refine ⟨p, 2 * k + 1, q, rfl, hp, ⟨k, rfl⟩, ?_, hs, hq, ?_⟩
  · rintro rfl
    exact hr rfl
  · rwa [Ne, find?_joinHyphens] at hw

theorem keepsHyphens_iff (t : Text) : KeepsHyphens ((joinHyphens t).filter (!isFrame ·)) ↔
    ∃ p n s q, t = p ++ (List.replicate n '-' ++ (s ++ '-' :: q)) ∧ HeldApart p n s q := by
  have hhyphen : (!isFrame '-') = true := rfl
  constructor
  · rintro ⟨p, q, h, hq⟩
    obtain ⟨u, r, hu, -, hr⟩ := List.filter_eq_append_iff.mp h
    obtain ⟨v, r', rfl, -, -, hr'⟩ := List.filter_eq_cons_iff.mp hr
    obtain ⟨s, w, rfl, hs, -, rfl⟩ := List.filter_eq_cons_iff.mp hr'
    rw [← List.append_assoc] at hu
    rw [List.head?_filter] at hq
    have hframes : ∀ c ∈ s, isFrame c = true := fun c hc => by simpa using hs c hc
    obtain ⟨p, n, q, ht, hheld⟩ := exists_heldApart hu hframes hq
    exact ⟨p, n, s, q, ht, hheld⟩
  · rintro ⟨p, n, s, q, rfl, h⟩
    obtain ⟨k, hjoin⟩ := joinHyphens_heldApart h
    have hs : s.filter (!isFrame ·) = [] := by
      rw [List.filter_eq_nil_iff]
      exact fun c hc => by simp [h.frames c hc]
    refine ⟨(joinHyphens p ++ List.replicate k '—').filter (!isFrame ·),
      (joinHyphens q).filter (!isFrame ·), ?_, ?_⟩
    · rw [hjoin]
      simp only [List.filter_append, List.filter_cons, hhyphen, if_true, hs, List.nil_append,
        List.append_assoc]
    · rw [Ne, List.head?_filter, find?_joinHyphens]
      exact h.arrowless

/-- A label before it is put in quotes. -/
def unquotedLabel (t : Text) : Text :=
  Text.trim ((joinArrows ((joinHyphens t).filter (!isFrame ·))).map angleQuote)

/-- Double quotes in a label give way to single ones. -/
def singleQuote (c : Char) : Char := if c = '"' then '\'' else c

theorem label_eq (t : Text) : label t = if (unquotedLabel t).any Text.isBlank then
    '"' :: ((unquotedLabel t).map singleQuote ++ ['"']) else unquotedLabel t := rfl

theorem angleQuote_eq_hyphen (c : Char) : angleQuote c = '-' ↔ c = '-' := by
  unfold angleQuote
  split
  · next h => simp [h]
  · split
    · next h => simp [h]
    · rfl

theorem singleQuote_eq_hyphen (c : Char) : singleQuote c = '-' ↔ c = '-' := by
  unfold singleQuote
  split
  · next h => simp [h]
  · rfl

theorem single_label (t : Text) : Single (label t) ↔ Single (unquotedLabel t) := by
  have hquote : '-' ∉ ['"'] := by decide
  rw [label_eq]
  split
  · exact (single_around hquote hquote).trans (single_map singleQuote_eq_hyphen)
  · rfl

/-- A sign that a label may not hold: one of a frame or of an arrow. -/
def isSign (c : Char) : Bool := isFrame c || c == '<' || c == '>'

theorem isSign_angleQuote (h : isFrame c = false) : isSign (angleQuote c) = false := by
  unfold angleQuote
  split
  · decide
  · split
    · decide
    · simp_all [isSign]

theorem isSign_of_mem_label (hc : c ∈ label t) : isSign c = false := by
  have hplain : ∀ c ∈ unquotedLabel t, isSign c = false := by
    intro c hc
    obtain ⟨d, hd, rfl⟩ := List.mem_map.mp (trim_subset _ hc)
    refine isSign_angleQuote ?_
    rcases List.mem_cons.mp (joinArrows_subset _ hd) with rfl | hd
    · decide
    · simpa using (List.mem_filter.mp hd).2
  rw [label_eq] at hc
  split at hc
  · simp only [List.mem_cons, List.mem_append, List.mem_map, List.not_mem_nil, or_false] at hc
    rcases hc with rfl | ⟨d, hd, rfl⟩ | rfl
    · decide
    · unfold singleQuote
      split
      · decide
      · exact hplain d hd
    · decide
  · exact hplain c hc

theorem not_infix_label {sign : Text} (h : sign.any isSign = true) : ¬ sign <:+: label t := by
  obtain ⟨c, hc, hsign⟩ := List.any_eq_true.mp h
  intro hinside
  rw [isSign_of_mem_label (hinside.subset hc)] at hsign
  cases hsign

theorem label_of_blank (h : (label t).any Text.isBlank = true) :
    ∃ u, label t = '"' :: (u ++ ['"']) ∧ '"' ∉ u := by
  rw [label_eq] at h ⊢
  split at h
  · next hblank =>
    refine ⟨(unquotedLabel t).map singleQuote, if_pos hblank, fun hm => ?_⟩
    obtain ⟨c, -, hc⟩ := List.mem_map.mp hm
    unfold singleQuote at hc
    split at hc
    · exact absurd hc (by decide)
    · next hne => exact hne hc
  · next hblank => exact absurd h hblank

/-- A label holds no sign of a diagram, and stands in quotes where it has blanks; it holds two
hyphens side by side exactly where its text has two that only signs of frames hold apart. -/
theorem label_signs (t : Text) :
    (∀ sign ∈ ["->", "\x7b", "\x7d", "[", "]", "|", "<", ">"], ¬ sign.toList <:+: label t) ∧
    ("--".toList <:+: label t ↔ ∃ p n s q,
      t = p ++ (List.replicate n '-' ++ (s ++ '-' :: q)) ∧ HeldApart p n s q) ∧
    ((label t).any Text.isBlank = true → ∃ u, label t = '"' :: (u ++ ['"']) ∧ '"' ∉ u) := by
  have hsigns : ∀ sign ∈ ["->", "\x7b", "\x7d", "[", "]", "|", "<", ">"],
      sign.toList.any isSign = true := by
    decide
  refine ⟨fun sign hsign => not_infix_label (hsigns sign hsign), ?_, label_of_blank⟩
  rw [infix_hyphens_iff, single_label, unquotedLabel, single_trim, single_map angleQuote_eq_hyphen,
    single_joinArrows, not_not, keepsHyphens_iff]

/-- Where a brace between two hyphens is taken out, they come side by side. -/
theorem label_hyphens :
    ¬∀ t : Text, (∀ sign ∈ ["--", "->", "\x7b", "\x7d", "[", "]", "|", "<", ">"],
        ¬ sign.toList <:+: label t) ∧
      ((label t).any Text.isBlank = true → ∃ u, label t = '"' :: (u ++ ['"']) ∧ '"' ∉ u) := by
  intro h
  have hlabel : label "-\x7b-".toList = "--".toList := by decide
  refine (h "-\x7b-".toList).1 "--" List.mem_cons_self ?_
  rw [hlabel]

end SchemaDiagram.Diagram
