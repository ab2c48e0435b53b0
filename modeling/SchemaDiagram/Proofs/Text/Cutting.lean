import SchemaDiagram.Proofs.Text.Plain

/-! Texts cut at a character, trimmed and joined. -/
namespace SchemaDiagram.Text

variable {c d : Char} {t r sep : Text} {pieces : List Text}

/-- A text that neither starts nor ends with a blank has none to trim. -/
theorem trim_of_ends (hc : isBlank c = false) (hd : isBlank d = false) :
    trim (c :: t ++ [d]) = c :: t ++ [d] := by
  rw [trim, List.cons_append, skipBlanks_cons hc, trimEnd, ← List.cons_append,
    List.reverse_append, List.reverse_singleton, List.singleton_append, skipBlanks_cons hd,
    List.reverse_cons, List.reverse_reverse]

theorem trim_blank (h : isBlank d = true) : trim (d :: t) = trim t := by
  simp [trim, skipBlanks, h]

theorem trimEnd_append {blanks : Text} (hb : allBlank blanks = true) (hc : isBlank c = false) :
    trimEnd (t ++ c :: blanks) = t ++ [c] := by
  have hb : ∀ d ∈ blanks.reverse, isBlank d = true := by simpa [allBlank] using hb
  rw [trimEnd, List.reverse_append, List.reverse_cons, List.append_assoc, skipBlanks,
    List.dropWhile_append_of_pos hb, List.singleton_append,
    List.dropWhile_cons_of_neg (by simp [hc]), List.reverse_cons, List.reverse_reverse]

theorem exists_trimEnd (t : Text) : ∃ blanks, allBlank blanks = true ∧ t = trimEnd t ++ blanks := by
  refine ⟨(t.reverse.takeWhile isBlank).reverse, ?_, ?_⟩
  · rw [allBlank, List.all_reverse]
    exact List.all_takeWhile
  · rw [trimEnd, skipBlanks, ← List.reverse_append, List.takeWhile_append_dropWhile,
      List.reverse_reverse]

/-- Nothing but blanks is trimmed away entirely. -/
theorem trim_eq_nil_iff : trim t = [] ↔ allBlank t = true := by
  constructor
  · intro h
    obtain ⟨blanks, hb, heq⟩ := exists_trimEnd (skipBlanks t)
    rw [← trim, h, List.nil_append] at heq
    rw [allBlank, ← List.takeWhile_append_dropWhile (p := isBlank) (l := t), List.all_append,
      List.all_takeWhile, Bool.true_and, ← skipBlanks, heq]
    exact hb
  · intro h
    have hblank : ∀ c ∈ t, isBlank c = true := List.all_eq_true.mp h
    have hskip : skipBlanks (t ++ []) = [] := List.dropWhile_append_of_pos hblank
    rw [List.append_nil] at hskip
    rw [trim, hskip]
    rfl

theorem splitAt_of_not_mem (h : c ∉ t) : splitAt c t = [t] := by
  induction t with
  | nil => rfl
  | cons d t ih =>
    obtain ⟨hd, ht⟩ := not_or.mp (mt List.mem_cons.mpr h)
    rw [splitAt, if_neg (Ne.symm hd), ih ht, consFirst]

theorem splitAt_append (h : c ∉ t) : splitAt c (t ++ c :: r) = t :: splitAt c r := by
  induction t with
  | nil => simp [splitAt]
  | cons d t ih =>
    obtain ⟨hd, ht⟩ := not_or.mp (mt List.mem_cons.mpr h)
    rw [List.cons_append, splitAt, if_neg (Ne.symm hd), ih ht, consFirst]

theorem consFirst_ne_nil (c : Char) (pieces : List Text) : consFirst c pieces ≠ [] := by
  cases pieces <;> simp [consFirst]

theorem join_consFirst (sep : Text) (c : Char) (pieces : List Text) :
    join sep (consFirst c pieces) = c :: join sep pieces := by
  rcases pieces with _ | ⟨piece, _ | ⟨next, pieces⟩⟩ <;> rfl

theorem exists_join (sep piece : Text) (pieces : List Text) :
    ∃ r, join sep (piece :: pieces) = piece ++ r := by
  cases pieces with
  | nil => exact ⟨[], (List.append_nil _).symm⟩
  | cons next pieces => exact ⟨sep ++ join sep (next :: pieces), List.append_assoc _ _ _⟩

theorem join_cons_append {piece : Text} (h : pieces ≠ []) :
    join [c] (piece :: pieces) ++ r = piece ++ c :: (join [c] pieces ++ r) := by
  obtain ⟨next, pieces, rfl⟩ := List.exists_cons_of_ne_nil h
  simp [join]

/-- A joined text is cut into its pieces again; all but the first keep what follows the cut. -/
theorem splitAt_join {piece : Text} (h : ∀ p ∈ piece :: pieces, c ∉ p) (hd : d ≠ c) :
    splitAt c (join [c, d] (piece :: pieces)) = piece :: pieces.map (d :: ·) := by
  induction pieces generalizing piece with
  | nil => exact splitAt_of_not_mem (h piece (by simp))
  | cons next pieces ih =>
    obtain ⟨hpiece, h⟩ := List.forall_mem_cons.mp h
    have hjoin : join [c, d] (piece :: next :: pieces) =
        piece ++ c :: d :: join [c, d] (next :: pieces) := by simp [join]
    rw [hjoin, splitAt_append hpiece, splitAt, if_neg hd, ih h, consFirst, List.map_cons]

theorem takeWhile_ne (h : c ∉ t) : (t ++ c :: r).takeWhile (· != c) = t := by
  have ht : ∀ d ∈ t, (d != c) = true := by
    rintro d hd
    simpa using ne_of_mem_of_not_mem hd h
  rw [List.takeWhile_append_of_pos ht, List.takeWhile_cons_of_neg (by simp), List.append_nil]

theorem dropWhile_ne (h : c ∉ t) : (t ++ c :: r).dropWhile (· != c) = c :: r := by
  have ht : ∀ d ∈ t, (d != c) = true := by
    rintro d hd
    simpa using ne_of_mem_of_not_mem hd h
  rw [List.dropWhile_append_of_pos ht, List.dropWhile_cons_of_neg (by simp)]

/-- A run that ends in a text ends there whatever comes later. -/
theorem takeWhile_append_of_stops {p : Char → Bool} (h : t.dropWhile p ≠ []) (r : Text) :
    (t ++ r).takeWhile p = t.takeWhile p := by
  rw [List.takeWhile_append, if_neg]
  intro hwhole
  have hsplit := congrArg List.length (List.takeWhile_append_dropWhile (p := p) (l := t))
  have hpos := List.length_pos_iff.mpr h
  rw [List.length_append, hwhole] at hsplit
  omega

theorem dropWhile_append_of_stops {p : Char → Bool} (h : t.dropWhile p ≠ []) (r : Text) :
    (t ++ r).dropWhile p = t.dropWhile p ++ r := by
  rw [List.dropWhile_append, if_neg (by simpa using h)]

/-- A run ends at a character that is not of its kind. -/
theorem takeWhile_append_mark {p : Char → Bool} (hc : p c = false) (t r : Text) :
    (t ++ c :: r).takeWhile p = t.takeWhile p := by
  induction t with
  | nil => simp [hc]
  | cons d t ih => cases hd : p d <;> simp [hd, ih]

theorem dropWhile_append_mark {p : Char → Bool} (hc : p c = false) (t r : Text) :
    (t ++ c :: r).dropWhile p = t.dropWhile p ++ c :: r := by
  induction t with
  | nil => simp [hc]
  | cons d t ih => cases hd : p d <;> simp [hd, ih]

theorem forall_mem_join {p : Char → Prop} (hs : ∀ c ∈ sep, p c)
    (hp : ∀ piece ∈ pieces, ∀ c ∈ piece, p c) : ∀ c ∈ join sep pieces, p c := by
  fun_induction join sep pieces with
  | case1 => simp
  | case2 piece => exact hp piece (by simp)
  | case3 piece pieces _ ih =>
    obtain ⟨hpiece, hp⟩ := List.forall_mem_cons.mp hp
    have ih := ih hp
    intro c hc
    rcases List.mem_append.mp hc with hc | hc
    · rcases List.mem_append.mp hc with hc | hc
      · exact hpiece c hc
      · exact hs c hc
    · exact ih c hc

theorem not_mem_join (hs : c ∉ sep) (hp : ∀ piece ∈ pieces, c ∉ piece) : c ∉ join sep pieces := by
  intro hm
  have hall := forall_mem_join (p := (· ≠ c)) (fun d hd => ne_of_mem_of_not_mem hd hs)
    (fun piece hpiece d hd => ne_of_mem_of_not_mem hd (hp piece hpiece))
  exact hall c hm rfl

theorem mem_join {piece : Text} (hp : piece ∈ pieces) (hc : c ∈ piece) : c ∈ join sep pieces := by
  fun_induction join sep pieces with
  | case1 => cases hp
  | case2 p => exact List.mem_singleton.mp hp ▸ hc
  | case3 p ps _ ih =>
    rcases List.mem_cons.mp hp with rfl | hp
    · simp [hc]
    · exact List.mem_append_right _ (ih hp)

end SchemaDiagram.Text
