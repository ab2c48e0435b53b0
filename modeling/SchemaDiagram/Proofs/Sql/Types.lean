import SchemaDiagram.Proofs.Sql.Names

/-! Reading the type of a column back, word by word, up to the first word of a constraint. -/
namespace SchemaDiagram.Sql

variable {t v r : Text} {w : TypeWord} {words : List TypeWord} {ok : Text → Prop}

/-- Nothing comes next, or a blank and one of the words in question. -/
def Follows (ok : Text → Prop) (r : Text) : Prop :=
  r = [] ∨ ∃ v r', r = ' ' :: (v ++ r') ∧ v ≠ [] ∧ Text.Plain v ∧ Ends r' ∧ ok v

theorem Follows.ends (h : Follows ok r) : Ends r := by
  rcases h with rfl | ⟨v, r', rfl, -⟩ <;> simp [Ends]

theorem Follows.mono {ok' : Text → Prop} (h : Follows ok r) (hok : ∀ v, ok v → ok' v) :
    Follows ok' r := by
  rcases h with rfl | ⟨v, r', hr, hv, hp, he, hok'⟩
  · exact Or.inl rfl
  · exact Or.inr ⟨v, r', hr, hv, hp, he, hok v hok'⟩

theorem Follows.skipBlanks (h : Follows ok r) :
    Text.skipBlanks r = [] ∨ ∃ c t, Text.skipBlanks r = c :: t ∧ Text.isPlain c = true := by
  rcases h with rfl | ⟨v, r', rfl, hv, hp, -⟩
  · exact Or.inl rfl
  · obtain ⟨c, v, rfl⟩ := List.exists_cons_of_ne_nil hv
    have hc := (Text.plain_cons.mp hp).1
    refine Or.inr ⟨c, v ++ r', ?_, hc⟩
    exact Text.skipBlanks_cons (Text.isBlank_of_isPlain hc)

/-- Behind the blanks there is no parenthesis or bracket. -/
theorem Follows.bare (h : Follows ok r) : ∀ c ∈ (Text.skipBlanks r).head?, c ≠ '(' ∧ c ≠ '[' := by
  rcases h.skipBlanks with he | ⟨c, t, he, hc⟩ <;> rw [he]
  · rintro c ⟨⟩
  · rintro d ⟨⟩
    exact ⟨Text.ne_of_isPlain hc (by decide), Text.ne_of_isPlain hc (by decide)⟩

/-- The letters of a word and the dots between them are read up to where the word is over. -/
theorem dottedWord_of_over (hv : dottedWord v = (v, []))
    (hr : ∀ c ∈ r.head?, Text.isWord c = false ∧ c ≠ '.') : dottedWord (v ++ r) = (v, r) := by
  induction v with
  | nil =>
    cases r with
    | nil => rfl
    | cons c r => simp [dottedWord, hr c rfl]
  | cons c v ih =>
    rw [dottedWord] at hv
    split at hv
    · next hc =>
      obtain ⟨hv, hrest⟩ : (dottedWord v).1 = v ∧ (dottedWord v).2 = [] := by simpa using hv
      have hc : (Text.isWord c || (c == '.' && startsWord (v ++ r))) = true := by
        rw [Bool.or_eq_true, Bool.and_eq_true] at hc ⊢
        refine hc.imp_right fun hdot => ⟨hdot.1, ?_⟩
        cases v with
        | nil => exact absurd hdot.2 (by decide)
        | cons => exact hdot.2
      rw [List.cons_append, dottedWord, if_pos hc, ih (Prod.ext hv hrest)]
    · cases hv

theorem dottedWord_of_letters (hv : ∀ c ∈ v, Text.isWord c = true) : dottedWord v = (v, []) := by
  induction v with
  | nil => rfl
  | cons c v ih =>
    obtain ⟨hc, hv⟩ := List.forall_mem_cons.mp hv
    simp [dottedWord, hc, ih hv]

theorem dottedWord_append (hv : Text.Plain v) (hr : Ends r) : dottedWord (v ++ r) = (v, r) := by
  refine dottedWord_of_over (dottedWord_of_letters fun c hc => Text.isWord_of_isPlain (hv c hc)) ?_
  intro c hc
  rcases hr c hc with rfl | rfl <;> decide

theorem typeArguments_of_bare (h : ∀ c ∈ (Text.skipBlanks r).head?, c ≠ '(') :
    typeArguments r = ([], r) := by
  unfold typeArguments
  split
  · next heq => exact absurd rfl (h '(' (by rw [heq]; rfl))
  · rfl

theorem arraySuffixes_of_none (h : arraySuffix? r = none) : arraySuffixes r = ([], r) := by
  rw [arraySuffixes]
  split
  · rfl
  · next heq => simp [h] at heq

theorem arraySuffixes_of_bare (h : ∀ c ∈ (Text.skipBlanks r).head?, c ≠ '[') :
    arraySuffixes r = ([], r) := by
  refine arraySuffixes_of_none ?_
  unfold arraySuffix?
  split
  · next heq => exact absurd rfl (h '[' (by rw [heq]; rfl))
  · rfl

/-- Arguments without blanks are read as they stand, up to the first parenthesis that closes. -/
theorem typeArguments_list {a : Text} (ha : Text.squeeze a = a) (hclose : ')' ∉ a) (r : Text) :
    typeArguments ('(' :: (a ++ ')' :: r)) = ('(' :: (a ++ [')']), r) := by
  rw [typeArguments, Text.skipBlanks_cons (by decide)]
  simp only [Text.takeWhile_ne hclose, Text.dropWhile_ne hclose, ha]
  rfl

theorem startsWord_append (hv : Text.Plain v) (hne : v ≠ []) : startsWord (v ++ r) = true := by
  obtain ⟨c, v, rfl⟩ := List.exists_cons_of_ne_nil hne
  exact Text.isWord_of_isPlain (Text.plain_cons.mp hv).1

/-- Whatever comes behind a word that stands first, it is the word that is read. -/
theorem typeWord?_word (hv : Text.Plain v) (hne : v ≠ []) (hr : Ends r) :
    ∃ spelling rest, typeWord? (v ++ r) = some (v, spelling, rest) := by
  simp only [typeWord?, Text.skipBlanks_append hv hne, startsWord_append hv hne, if_true,
    dottedWord_append hv hr]
  exact ⟨_, _, rfl⟩

namespace TypeWord

theorem Valid.typeArguments (h : w.Valid) (hr : Follows ok r) :
    Sql.typeArguments (w.arguments ++ r) = (w.arguments, r) := by
  cases hn : w.numbers with
  | none =>
    simp only [arguments, hn, List.nil_append]
    exact typeArguments_of_bare fun c hc => (hr.bare c hc).1
  | some numbers =>
    have hfigure := h.mem_numbers hn
    have hclose : ')' ∉ Text.join [','] numbers := by
      intro hm
      simpa using hfigure _ hm
    have hsqueeze : Text.squeeze (Text.join [','] numbers) = Text.join [','] numbers := by
      rw [Text.squeeze, List.filter_eq_self]
      intro c hc
      rcases hfigure c hc with hd | rfl | rfl
      · rw [Text.isBlank_of_isPlain (Text.isPlain_of_isDigit hd)]
        rfl
      · decide
      · decide
    have hargs : w.arguments ++ r = '(' :: (Text.join [','] numbers ++ ')' :: r) := by
      simp [arguments, hn]
    rw [hargs, typeArguments_list hsqueeze hclose]
    simp [arguments, hn]

theorem Valid.typeWord? (h : w.Valid) (hr : Follows ok r) :
    Sql.typeWord? (w.spelling ++ r) = some (w.word, w.spelling, r) := by
  have hends := w.ends_arguments hr.ends
  rw [spelling, List.append_assoc]
  simp only [Sql.typeWord?, Text.skipBlanks_append h.plain h.nonempty,
    startsWord_append h.plain h.nonempty, if_true, dottedWord_append h.plain hends,
    h.typeArguments hr, arraySuffixes_of_bare fun c hc => (hr.bare c hc).2, List.append_nil]

end TypeWord

theorem typeWord?_blank : typeWord? (' ' :: t) = typeWord? t := rfl

theorem atCharacterSet_blank : atCharacterSet (' ' :: t) = atCharacterSet t := rfl

theorem typeWords_of_none (h : typeWord? t = none) : typeWords t = [] := by
  rw [typeWords]
  split
  · rfl
  · simp_all

theorem typeWords_of_some {word spelling rest : Text}
    (h : typeWord? t = some (word, spelling, rest)) :
    typeWords t =
      if isTypeStop word || atCharacterSet t then [] else spelling :: typeWords rest := by
  rw [typeWords]
  split
  · simp_all
  · next he =>
    rw [h] at he
    cases he
    rfl

theorem typeWords_blank : typeWords (' ' :: t) = typeWords t := by
  cases h : typeWord? t with
  | none => rw [typeWords_of_none h, typeWords_of_none (typeWord?_blank.trans h)]
  | some found =>
    obtain ⟨word, spelling, rest⟩ := found
    rw [typeWords_of_some h, typeWords_of_some (typeWord?_blank.trans h), atCharacterSet_blank]

/-- The type ends where the first word of a constraint stands. -/
theorem typeWords_stop (h : Follows (fun v => isTypeStop v = true) r) : typeWords r = [] := by
  rcases h with rfl | ⟨v, r', rfl, hne, hv, hr, hstop⟩
  · exact typeWords_of_none rfl
  · obtain ⟨spelling, rest, hread⟩ := typeWord?_word hv hne hr
    rw [typeWords_blank, typeWords_of_some hread, hstop]
    rfl

/-- A word of a type is no character set unless the word after it makes it one. -/
theorem atCharacterSet_spelling (h : w.Valid)
    (hr : Follows (fun v => ¬ (w.numbers = none ∧ Text.upper w.word = "CHARACTER".toList ∧
      Text.upper v = "SET".toList)) r) : atCharacterSet (w.spelling ++ r) = false := by
  have hends := w.ends_arguments hr.ends
  have hread := Text.keywordGap?_bind (k := "CHARACTER") (Text.wholeKeyword? "SET")
    (by decide) h.plain hends.atWordEnd
  rw [Option.bind_eq_bind] at hread
  rw [TypeWord.spelling, List.append_assoc, atCharacterSet,
    Text.skipBlanks_append h.plain h.nonempty, hread]
  split
  · next hc =>
    cases hn : w.numbers with
    | some numbers => simp [TypeWord.arguments, hn, Text.gap?, Text.isBlank, Text.inRanges,
        Text.blankRanges]
    | none =>
      rcases hr with rfl | ⟨v, r', rfl, hne, hv, hr', hset⟩
      · simp [TypeWord.arguments, hn, Text.gap?]
      · have hset : Text.upper v ≠ "SET".toList := fun he => hset ⟨hn, hc, he⟩
        have hread := Text.wholeKeyword?_append (k := "SET") (by decide) hv hr'.atWordEnd
        rw [if_neg hset] at hread
        simp [TypeWord.arguments, hn, Text.gap?_blank, Text.skipBlanks_append hv hne, hread]
  · rfl

theorem upper_ne_of_typeStop {k : String} (h : isTypeStop v = false) (hk : k ∈ typeStops) :
    Text.upper v ≠ k.toList := by
  intro he
  have hstop : isTypeStop v = true := List.any_eq_true.mpr ⟨k, hk, by simp [he]⟩
  simp [hstop] at h

theorem upper_ne_set_of_typeStop (h : isTypeStop v = true) : Text.upper v ≠ "SET".toList := by
  intro he
  rw [isTypeStop, he] at h
  revert h
  decide

/-- The words of a type are read one after the other, up to the word that ends it. -/
theorem typeWords_spaced (hv : ∀ w ∈ words, w.Valid) (hc : words.IsChain TypeWord.Continues)
    (hr : Follows (fun v => isTypeStop v = true) r) :
    typeWords (spaced (words.map TypeWord.spelling) ++ r) = words.map TypeWord.spelling := by
  induction words with
  | nil => exact typeWords_stop hr
  | cons w words ih =>
    obtain ⟨hw, hv⟩ := List.forall_mem_cons.mp hv
    have hnext : Follows (fun v => ¬ (w.numbers = none ∧ Text.upper w.word = "CHARACTER".toList ∧
        Text.upper v = "SET".toList)) (spaced (words.map TypeWord.spelling) ++ r) := by
      cases words with
      | nil => exact hr.mono fun v hs he => upper_ne_set_of_typeStop hs he.2.2
      | cons v words =>
        have hv := hv v (by simp)
        refine Or.inr ⟨v.word, v.arguments ++ (spaced (words.map TypeWord.spelling) ++ r), ?_,
          hv.nonempty, hv.plain, ?_, ?_⟩
        · simp [spaced, TypeWord.spelling]
        · exact v.ends_arguments (ends_spaced _ hr.ends)
        · exact (List.isChain_cons_cons.mp hc).1
    have hread := typeWords_of_some (hw.typeWord? hnext)
    rw [hw.notStop, atCharacterSet_spelling hw hnext] at hread
    have hspaced : spaced ((w :: words).map TypeWord.spelling) ++ r =
        ' ' :: (w.spelling ++ (spaced (words.map TypeWord.spelling) ++ r)) := by
      simp [spaced]
    rw [hspaced, typeWords_blank, hread, ih hv hc.tail]
    rfl

/-- What is read as the type of a column is the type that was written. -/
theorem columnType_append {type : Text} (h : IsType type)
    (hr : Follows (fun v => isTypeStop v = true) r) : columnType (type ++ r) = type := by
  obtain ⟨words, hne, hv, hc, rfl⟩ := h
  have hread := typeWords_spaced hv hc hr
  rw [← blank_join (by simpa using hne), List.cons_append, typeWords_blank] at hread
  rw [columnType, hread]

end SchemaDiagram.Sql
