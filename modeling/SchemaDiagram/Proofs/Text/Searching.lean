import SchemaDiagram.Proofs.Text.Capitals
import SchemaDiagram.Proofs.Text.Cutting

/-!
Searches place by place. A search at the starts of words gives the first answer among those places,
so a search through a text with a mark in it is one search in front of the mark and one behind it.
-/
namespace SchemaDiagram.Text

variable {α : Type} {c : Char} {t r u k : Text} {read : Text → Option α}
  {skip next : Text → Option Text} {inWord : Bool}

/-- What a text holds from each place on where a word may start. -/
def wordStarts (inWord : Bool) : Text → List Text
  | [] => []
  | c :: t => if inWord then wordStarts (isWord c) t else (c :: t) :: wordStarts (isWord c) t

theorem searchWord_eq_findSome? (read : Text → Option α) (inWord : Bool) (t : Text) :
    searchWord read inWord t = (wordStarts inWord t).findSome? read := by
  induction t generalizing inWord with
  | nil => rfl
  | cons c t ih =>
    cases inWord with
    | true => exact ih (isWord c)
    | false =>
      rw [searchWord, wordStarts, if_neg Bool.false_ne_true, if_neg Bool.false_ne_true, ih,
        List.findSome?_cons]
      cases read (c :: t) <;> rfl

/-- Two readers find the same if they read the same at each place where a word may start. -/
theorem map_searchWord_congr {β : Type} (f : α → β) {other : Text → Option α}
    (h : ∀ u ∈ wordStarts inWord t, (other u).map f = (read u).map f) :
    ((wordStarts inWord t).findSome? other).map f = (searchWord read inWord t).map f := by
  rw [searchWord_eq_findSome?]
  generalize wordStarts inWord t = places at h
  induction places with
  | nil => rfl
  | cons u us ih =>
    have hu := h u List.mem_cons_self
    have hrest := ih fun v hv => h v (List.mem_cons_of_mem u hv)
    rw [List.findSome?_cons, List.findSome?_cons]
    cases ho : other u <;> cases hr : read u <;> rw [ho, hr] at hu
    · exact hrest
    · cases hu
    · cases hu
    · exact hu

/-- A search through a text with a mark that it passes over tries the places in front of the mark
and goes on behind it. -/
theorem searchWord_append (hc : isWord c = false) (hmark : read (c :: r) = none) (inWord : Bool)
    (t : Text) : searchWord read inWord (t ++ c :: r) =
      ((wordStarts inWord t).findSome? fun u => read (u ++ c :: r)).or
        (searchWord read false r) := by
  induction t generalizing inWord with
  | nil =>
    rw [List.nil_append, searchWord, hmark, hc, Option.none_or, ite_self]
    rfl
  | cons d t ih =>
    cases inWord with
    | true => exact ih (isWord d)
    | false =>
      rw [List.cons_append, searchWord, wordStarts, if_neg Bool.false_ne_true,
        if_neg Bool.false_ne_true, ih, List.findSome?_cons, ← List.cons_append]
      cases read (d :: t ++ c :: r) <;> rfl

theorem upper_append (t r : Text) : upper (t ++ r) = upper t ++ upper r := List.flatMap_append

theorem upper_append_cons (h : upperChar c = [c]) (t r : Text) :
    upper (t ++ c :: r) = upper t ++ c :: upper r := by
  have hcons : upper (c :: r) = c :: upper r := by
    rw [upper, List.flatMap_cons, h]
    rfl
  rw [upper_append, hcons]

/-- What a reader skips stands in front of a mark, and it sees nothing of what is behind it. -/
def StopsAt (c : Char) (skip : Text → Option Text) : Prop :=
  ∀ u r, skip (u ++ c :: r) = (skip u).map (· ++ c :: r)

theorem StopsAt.bind (h : StopsAt c skip) (hn : StopsAt c next) :
    StopsAt c fun t => skip t >>= next := by
  intro u r
  simp only [h u r, Option.bind_eq_bind]
  cases skip u with
  | none => rfl
  | some u => exact hn u r

theorem StopsAt.atWordEnd (h : StopsAt c skip) (hc : isWord c = false) :
    StopsAt c fun t => (skip t).filter atWordEnd := by
  intro u r
  have hend (u : Text) : Text.atWordEnd (u ++ c :: r) = Text.atWordEnd u := by
    cases u with
    | nil => simp [Text.atWordEnd, hc]
    | cons => rfl
  simp only [h u r]
  cases skip u with
  | none => rfl
  | some u =>
    simp only [Option.map_some, Option.filter_some, hend]
    split <;> rfl

theorem stopsAt_after? (hc : c ∉ k) : StopsAt c (after? k) := by
  intro u r
  induction k generalizing u with
  | nil => rfl
  | cons a k ih =>
    obtain ⟨ha, hk⟩ := not_or.mp (mt List.mem_cons.mpr hc)
    cases u with
    | nil => rw [List.nil_append, after?_cons, if_neg (by simpa using Ne.symm ha)]; rfl
    | cons d u =>
      rw [List.cons_append, after?_cons, after?_cons]
      split
      · exact ih hk u
      · rfl

theorem stopsAt_afterCapitals (hc : capital c ∉ k) : StopsAt c (afterCapitals k) := by
  intro u r
  induction k generalizing u with
  | nil => rfl
  | cons a k ih =>
    obtain ⟨ha, hk⟩ := not_or.mp (mt List.mem_cons.mpr hc)
    cases u with
    | nil => exact if_neg ha
    | cons d u =>
      rw [List.cons_append, afterCapitals, afterCapitals]
      split
      · exact ih hk u
      · rfl

theorem skipBlanks_append_mark (hc : isBlank c = false) (u r : Text) :
    skipBlanks (u ++ c :: r) = skipBlanks u ++ c :: r := dropWhile_append_mark hc u r

theorem stopsAt_gap? (hc : isBlank c = false) : StopsAt c gap? := by
  intro u r
  cases u with
  | nil => simp [gap?, hc]
  | cons d u =>
    rw [List.cons_append, gap?, gap?, skipBlanks_append_mark hc]
    split <;> rfl

theorem stopsAt_keywordGap? {k : String} (hk : capital c ∉ k.toList) (hc : isBlank c = false) :
    StopsAt c (keywordGap? k) := (stopsAt_afterCapitals hk).bind (stopsAt_gap? hc)

/-- Something is found in a text with a mark if it is found in front of the mark or behind it. -/
theorem StopsAt.isSome_searchWord (h : StopsAt c skip) (hempty : skip [] = none)
    (hc : isWord c = false) (t r : Text) : (searchWord skip false (t ++ c :: r)).isSome =
      ((searchWord skip false t).isSome || (searchWord skip false r).isSome) := by
  have hmark : skip (c :: r) = none := by
    have hnone := h [] r
    rwa [hempty] at hnone
  have hfront : ((wordStarts false t).findSome? fun u => skip (u ++ c :: r)) =
      (searchWord skip false t).map (· ++ c :: r) := by
    rw [searchWord_eq_findSome?, List.map_findSome?]
    exact congrArg (List.findSome? · _) (funext fun u => h u r)
  rw [searchWord_append hc hmark, hfront, Option.isSome_or, Option.isSome_map]

end SchemaDiagram.Text
