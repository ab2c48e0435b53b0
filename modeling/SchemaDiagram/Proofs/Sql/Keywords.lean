import SchemaDiagram.Proofs.Sql.Printing
import SchemaDiagram.Proofs.Sql.Quoting

/-!
Searches for keywords in the definition of a column. A search passes over names, numbers and all
words but its keyword, so it finds the keyword where it was written and nowhere else.
-/
namespace SchemaDiagram.Sql

variable {α β : Type} {c : Char} {k w r : Text} {scope words : List Text}
  {read go : Text → Option α} {find : Text → β} {misses : Text → Prop}

/-- A keyword in capitals. -/
def IsKeyword (k : Text) : Prop := k ≠ [] ∧ ∀ c ∈ k, c.isUpper = true

instance (k : Text) : Decidable (IsKeyword k) := @instDecidableAnd _ _ _ (List.decidableBAll _ k)

/-- A digit or a character that is in no word. -/
def isFigure (c : Char) : Bool := c.isDigit || !Text.isWord c

/-- The search passes over figures, over the words that it misses and over names in quotes. -/
structure Passes (find : Text → β) (misses : Text → Prop) : Prop where
  mark : ∀ {c r}, Text.isWord c = false → find (c :: r) = find r
  figures : ∀ {t r}, (∀ c ∈ t, isFigure c = true) → Text.atWordEnd r = true →
    find (t ++ r) = find r
  word : ∀ {w r}, Text.Plain w → misses w → Text.atWordEnd r = true → find (w ++ r) = find r
  name : ∀ {w r} (q : Quotes), IsName w → find (w ++ q.closer :: r) = find (q.closer :: r)

theorem IsKeyword.plain (h : IsKeyword k) : Text.Plain k :=
  fun c hc => Text.isPlain_of_isUpper (h.2 c hc)

theorem capital_of_isUpper (h : c.isUpper = true) : Text.capital c = c := by
  have hplain := Text.isPlain_of_isUpper h
  revert h
  exact Text.isPlain_induction hplain (by decide)

theorem IsKeyword.afterCapitals (h : IsKeyword k) : Text.afterCapitals k (k ++ r) = some r := by
  obtain ⟨-, hk⟩ := h
  induction k with
  | nil => rfl
  | cons c k ih =>
    obtain ⟨hc, hk⟩ := List.forall_mem_cons.mp hk
    simpa [Text.afterCapitals, capital_of_isUpper hc] using ih hk

theorem IsKeyword.wholeKeyword? {k : String} (h : IsKeyword k.toList)
    (hr : Text.atWordEnd r = true) : Text.wholeKeyword? k (k.toList ++ r) = some r := by
  simp only [Text.wholeKeyword?, Text.keyword?, h.afterCapitals, Option.filter_some, hr, if_true]

/-- No keyword is read where a figure stands. -/
theorem afterCapitals_figure (hk : IsKeyword k) (hc : isFigure c = true) :
    Text.afterCapitals k (c :: r) = none := by
  obtain ⟨hne, hupper⟩ := hk
  cases k with
  | nil => exact (hne rfl).elim
  | cons a k =>
    have ha : a.isUpper = true := hupper a (by simp)
    have hcap : Text.capital c ≠ a := by
      rintro rfl
      rcases (Bool.or_eq_true _ _).mp hc with hd | hm
      · have hp := Text.isPlain_of_isDigit hd
        revert hd ha
        exact Text.isPlain_induction hp (by decide)
      · rw [Text.isWord_of_capital (Text.isPlain_of_isUpper ha)] at hm
        cases hm
    simp [Text.afterCapitals, hcap]

theorem isFigure_of_mark (h : Text.isWord c = false) : isFigure c = true := by simp [isFigure, h]

/-- A search at the starts of words goes on behind the word in which it stands. -/
theorem searchWord_inWord (hw : Text.Plain w) :
    Text.searchWord read true (w ++ r) = Text.searchWord read true r := by
  induction w with
  | nil => rfl
  | cons c w ih =>
    obtain ⟨hc, hw⟩ := Text.plain_cons.mp hw
    simpa [Text.searchWord, Text.isWord_of_isPlain hc] using ih hw

/-- At the end of a word it makes no difference whether a word came before. -/
theorem searchWord_atWordEnd (hread : ∀ {c r}, Text.isWord c = false → read (c :: r) = none)
    (hr : Text.atWordEnd r = true) :
    Text.searchWord read true r = Text.searchWord read false r := by
  cases r with
  | nil => rfl
  | cons c r =>
    have hc : Text.isWord c = false := by simpa [Text.atWordEnd] using hr
    simp [Text.searchWord, hread hc]

theorem searchWord_figures (hread : ∀ {c r}, isFigure c = true → read (c :: r) = none)
    {t : Text} (ht : ∀ c ∈ t, isFigure c = true) (hr : Text.atWordEnd r = true) (inWord : Bool) :
    Text.searchWord read inWord (t ++ r) = Text.searchWord read false r := by
  induction t generalizing inWord with
  | nil =>
    cases inWord with
    | false => rfl
    | true => exact searchWord_atWordEnd (fun hc => hread (isFigure_of_mark hc)) hr
  | cons c t ih =>
    obtain ⟨hc, ht⟩ := List.forall_mem_cons.mp ht
    cases inWord <;> simp [Text.searchWord, hread hc, ih ht]

theorem searchWord_word (hread : ∀ {c r}, Text.isWord c = false → read (c :: r) = none)
    (hw : Text.Plain w) (hr : Text.atWordEnd r = true) (hnone : read (w ++ r) = none) :
    Text.searchWord read false (w ++ r) = Text.searchWord read false r := by
  rw [← searchWord_atWordEnd hread hr]
  cases w with
  | nil => exact (searchWord_atWordEnd hread hr).symm
  | cons c w =>
    obtain ⟨hc, hw⟩ := Text.plain_cons.mp hw
    rw [List.cons_append] at hnone ⊢
    simp only [Text.searchWord, Bool.false_eq_true, if_false, hnone, Option.none_or,
      Text.isWord_of_isPlain hc, searchWord_inWord hw]

/-- A search for a keyword that is a whole word misses all other words. -/
theorem passes_searchWord (hk : IsKeyword k)
    (hgo : ∀ c t, Text.isPlain c = true → go (c :: t) = none)
    (hname : ∀ (q : Quotes) w r, IsName w → Text.upper w = k → go (q.closer :: r) = none) :
    Passes (Text.searchWord (fun t => Text.afterCapitals k t >>= go) false)
      (fun w => Text.upper w ≠ k) where
  mark := by
    intro c r hc
    have hnone := afterCapitals_figure (r := r) hk (isFigure_of_mark hc)
    simp [Text.searchWord, hnone, hc]
  figures := by
    intro t r ht hr
    exact searchWord_figures (fun hc => by simp [afterCapitals_figure hk hc]) ht hr false
  word := by
    intro w r hw hne hr
    refine searchWord_word (fun hc => ?_) hw hr ?_
    · simp [afterCapitals_figure hk (isFigure_of_mark hc)]
    · rw [Text.afterCapitals_bind go hk.plain hw hr hgo, if_neg hne]
  name := by
    intro w r q hw
    refine searchWord_word (fun hc => ?_) hw.plain q.atWordEnd_closer ?_
    · simp [afterCapitals_figure hk (isFigure_of_mark hc)]
    · rw [Text.afterCapitals_bind go hk.plain hw.plain q.atWordEnd_closer hgo]
      split
      · next he => exact hname q w r hw he
      · rfl

/-- What is read where the search stands is what the search finds. -/
theorem searchWord_eq_read (hr : r ≠ []) (h : (read r).isSome = true) :
    Text.searchWord read false r = read r := by
  obtain ⟨c, r, rfl⟩ := List.exists_cons_of_ne_nil hr
  obtain ⟨a, ha⟩ := Option.isSome_iff_exists.mp h
  simp [Text.searchWord, ha]

theorem search_eq_read (h : (read r).isSome = true) : Text.search read r = read r := by
  obtain ⟨a, ha⟩ := Option.isSome_iff_exists.mp h
  cases r <;> simp [Text.search, ha]

theorem search_cons (h : read (c :: r) = none) :
    Text.search read (c :: r) = Text.search read r := by
  simp [Text.search, h]

section

/-! A search that tries every place goes on behind each place where its keyword is not read. -/

variable (hk : IsKeyword k) (hgo : ∀ c t, Text.isPlain c = true → go (c :: t) = none)
  (hskip : ∀ {c r}, (Text.afterCapitals k (c :: r) >>= go) = none → find (c :: r) = find r)

include hk hgo hskip

theorem passes_quoted (hclose : ∀ (q : Quotes) r, go (q.closer :: r) = none) (q : Quotes)
    (hw : Text.Plain w) : find (w ++ q.closer :: r) = find (q.closer :: r) := by
  induction w with
  | nil => rfl
  | cons c w ih =>
    have hnone := Text.afterCapitals_bind (r := q.closer :: r) go hk.plain hw q.atWordEnd_closer hgo
    rw [hclose, ite_self, List.cons_append] at hnone
    rw [List.cons_append, hskip hnone]
    exact ih (Text.plain_cons.mp hw).2

/-- A search for a keyword anywhere misses the words that do not end like it. -/
theorem passes_anywhere (hclose : ∀ (q : Quotes) r, go (q.closer :: r) = none) :
    Passes find (fun w => ¬ k <:+ Text.upper w) where
  mark := by
    intro c r hc
    exact hskip (by simp [afterCapitals_figure hk (isFigure_of_mark hc)])
  figures := by
    intro t r ht hr
    induction t with
    | nil => rfl
    | cons c t ih =>
      obtain ⟨hc, ht⟩ := List.forall_mem_cons.mp ht
      rw [List.cons_append, hskip (by simp [afterCapitals_figure hk hc]), ih ht]
  word := by
    intro w r hw hne hr
    induction w with
    | nil => rfl
    | cons c w ih =>
      have hnone := Text.afterCapitals_bind go hk.plain hw hr hgo
      have hk : Text.upper (c :: w) ≠ k := fun he => hne (he ▸ List.suffix_refl _)
      rw [if_neg hk, List.cons_append] at hnone
      obtain ⟨hc, hw⟩ := Text.plain_cons.mp hw
      rw [Text.upper_cons (Text.ascii_of_isPlain hc)] at hne
      rw [List.cons_append, hskip hnone]
      exact ih hw fun hs => hne (hs.trans (List.suffix_cons _ _))
  name := fun q hw => passes_quoted hk hgo hskip hclose q hw.plain

end

theorem passes_search (hk : IsKeyword k) (hgo : ∀ c t, Text.isPlain c = true → go (c :: t) = none)
    (hclose : ∀ (q : Quotes) r, go (q.closer :: r) = none) :
    Passes (Text.search (fun t => Text.afterCapitals k t >>= go))
      (fun w => ¬ k <:+ Text.upper w) :=
  passes_anywhere hk hgo (fun hnone => search_cons hnone) hclose

theorem TypeWord.Valid.isFigure_of_mem {w : TypeWord} (h : w.Valid) :
    ∀ c ∈ w.arguments, isFigure c = true := by
  intro c hc
  cases hn : w.numbers with
  | none => simp [arguments, hn] at hc
  | some numbers =>
    have hc : c = '(' ∨ c ∈ Text.join [','] numbers ∨ c = ')' := by
      simpa [arguments, hn] using hc
    rcases hc with rfl | hc | rfl
    · decide
    · rcases h.mem_numbers hn c hc with hd | rfl | rfl
      · simp [isFigure, hd]
      · decide
      · decide
    · decide

namespace Passes

variable (h : Passes find misses)

include h

theorem around (q : Quotes) (hw : IsName w) : find (q.around w ++ r) = find r := by
  rw [Quotes.around_append, h.mark q.isWord_opener, h.name q hw, h.mark q.isWord_closer]

theorem tick (hw : IsName w) : find (tick w ++ r) = find r := h.around .backticks hw

theorem chain (hs : ∀ q ∈ scope, IsName q) (hw : IsName w) :
    find (chain scope w ++ r) = find r := by
  induction scope with
  | nil => exact h.tick hw
  | cons q scope ih =>
    obtain ⟨hq, hs⟩ := List.forall_mem_cons.mp hs
    have ih := ih hs
    simp only [Sql.chain, List.flatMap_cons, List.append_assoc] at ih ⊢
    rw [h.tick hq]
    exact (h.mark (by decide)).trans ih

theorem spaced (hw : ∀ w ∈ words, Text.Plain w ∧ misses w) (hr : Ends r) :
    find (spaced words ++ r) = find r := by
  induction words with
  | nil => rfl
  | cons w words ih =>
    obtain ⟨⟨hp, hm⟩, hw⟩ := List.forall_mem_cons.mp hw
    have hend := (ends_spaced words hr).atWordEnd
    simp only [Sql.spaced, List.flatMap_cons, List.append_assoc, List.cons_append] at hend ⊢
    rw [h.mark (by decide), h.word hp hm hend]
    exact ih hw

/-- A search passes over a whole type. -/
theorem types {words : List TypeWord} (hw : ∀ w ∈ words, w.Valid ∧ misses w.word) (hr : Ends r) :
    find (Sql.spaced (words.map TypeWord.spelling) ++ r) = find r := by
  induction words with
  | nil => rfl
  | cons w words ih =>
    obtain ⟨⟨hv, hm⟩, hw⟩ := List.forall_mem_cons.mp hw
    have hend := ends_spaced (words.map TypeWord.spelling) hr
    have hargs := (w.ends_arguments hend).atWordEnd
    have hspaced : Sql.spaced ((w :: words).map TypeWord.spelling) ++ r =
        ' ' :: (w.word ++ (w.arguments ++ (Sql.spaced (words.map TypeWord.spelling) ++ r))) := by
      simp [Sql.spaced, TypeWord.spelling]
    rw [hspaced, h.mark (by decide), h.word hv.plain hm hargs,
      h.figures hv.isFigure_of_mem hend.atWordEnd]
    exact ih hw

end Passes
end SchemaDiagram.Sql
