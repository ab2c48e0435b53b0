import SchemaDiagram.Proofs.Postgres.Remarks.Readers

/-!
Pieces around a comment. Where a piece starts at the mark of a comment, the pieces before it are
those of the text before it, and those after it are the same whatever the comment says.
-/
namespace SchemaDiagram.Postgres.Token

open Text (Opens Mark)

variable {y z : Text}

theorem within_string? (kind : TokenKind) (y : Text) : Within (string? kind) y := by
  have hcontent : Within (fun t => if kind = .escaped then unescaped? t else unquoted? '\'' t) y := by
    split
    · exact within_unescaped? y
    · exact within_unquoted? (by decide) y
  intro z hz found hfound hlength
  obtain ⟨inner, hinner, rfl⟩ := Option.map_eq_some_iff.mp hfound
  obtain ⟨hinner, hallowed⟩ := Option.filter_eq_some_iff.mp hinner
  obtain ⟨r, hr, hrest⟩ := hcontent hz inner hinner hlength
  refine ⟨r, ?_, hrest⟩
  unfold string?
  dsimp only at hr
  rw [hr, Option.filter_some, if_pos hallowed]
  rfl

/-- A word, a number or a sign that does not reach past the mark of a comment. -/
theorem within_plain (c : Char) (y : Text) : Within (fun t => some (front?.plain c t)) y := by
  intro z hz found hfound hlength
  obtain rfl := Option.some.inj hfound
  have happend : front?.plain c (y ++ z) = ((front?.plain c y).1, (front?.plain c y).2 ++ z) := by
    have hnumber := number_append hz (c :: y)
    rw [List.cons_append] at hnumber
    unfold front?.plain at hlength ⊢
    split
    · rfl
    split
    · rfl
    split
    · rw [hnumber]
    split
    · next hend hblank hdigit hspecial =>
      rw [if_neg hend, if_neg hblank, if_neg hdigit, if_pos hspecial] at hlength
      rw [signAt_append hz hlength]
    · exact bareWord_append hz c y
  rw [happend]
  exact ⟨_, rfl, rfl⟩

/-- How the first two characters decide about a piece. -/
theorem front?_eq (c : Char) (t : Text) : front? c t =
    if c = '\r' ∧ t.head? = some '\n' then some (.lineEnd, t.tail)
    else if c = '-' ∧ t.head? = some '-' then
      some (.comment (t.tail.takeWhile fun c => c != '\n' && c != '\r'),
        t.tail.dropWhile fun c => c != '\n' && c != '\r')
    else if c = '/' ∧ t.head? = some '*' then
      (block? 0 t.tail).map fun found => (.comment found.1, found.2)
    else if c = '\'' then string? .string t
    else if c = '"' then (unquoted? '"' t).map fun found => (.token .quotedName found.1, found.2)
    else if c = '\x60' then some (.token .word ['\x60'], t)
    else if c = '$' then dollar? t
    else if t.head? = some '\'' then
      (stringMark? c).elim (some (front?.plain c t)) fun kind => string? kind t.tail
    else some (front?.plain c t) := by
  have hno : ∀ {a d : Char}, (∀ t', c = a → t = d :: t' → False) → ¬ (c = a ∧ t.head? = some d) := by
    rintro a d h ⟨hc, hhead⟩
    obtain ⟨t', ht⟩ := List.head?_eq_some_iff.mp hhead
    exact h t' hc ht
  unfold front?
  split
  · simp
  · simp
  · simp
  · simp
  · simp
  · simp
  · simp
  · next hquote hdouble htick hdollar =>
    rw [if_neg (by simp), if_neg (by simp), if_neg (by simp), if_neg hquote, if_neg hdouble,
      if_neg htick, if_neg hdollar, List.head?_cons, if_pos rfl]
    cases stringMark? c <;> rfl
  · next hquote hdouble htick hdollar hstring hend hline hblock =>
    have hstring' : ¬ t.head? = some '\'' := fun h => hno (fun t' _ => hstring t') ⟨rfl, h⟩
    rw [if_neg (hno hend), if_neg (hno hline), if_neg (hno hblock), if_neg hquote, if_neg hdouble,
      if_neg htick, if_neg hdollar, if_neg hstring']

/-- A line comment before the mark ends before it. -/
theorem within_lineComment (y : Text) : Within (fun t =>
    some (Piece.comment (t.takeWhile fun c => c != '\n' && c != '\r'),
      t.dropWhile fun c => c != '\n' && c != '\r')) y := by
  intro z hz found hfound hlength
  obtain rfl := Option.some.inj hfound
  dsimp only at hlength ⊢
  rw [List.dropWhile_append] at hlength ⊢
  by_cases hstops : y.dropWhile (fun c => c != '\n' && c != '\r') = []
  · rw [if_pos (by simp [hstops])] at hlength
    obtain ⟨d, t, rfl, hd⟩ := hz.exists_cons
    have hline : (d != '\n' && d != '\r') = true := by rcases hd with rfl | rfl <;> rfl
    have hle := (List.dropWhile_sublist (fun c => c != '\n' && c != '\r') (l := t)).length_le
    rw [List.dropWhile_cons, hline, if_pos rfl, List.length_cons] at hlength
    omega
  · rw [if_neg (by simpa using hstops), Text.takeWhile_append_of_stops hstops]
    exact ⟨_, rfl, rfl⟩

theorem head?_mark (h : z = [] ∨ Opens z) :
    z.head? ≠ some '\n' ∧ z.head? ≠ some '*' ∧ z.head? ≠ some '\'' := by
  rcases h with rfl | hz
  · simp
  · obtain ⟨d, t, rfl, hd⟩ := hz.exists_cons
    rcases hd with rfl | rfl <;> simp

/-- A piece that is neither a line end of two characters nor a comment. -/
theorem within_front?_of_ne {c : Char}
    (hend : ∀ z, z = [] ∨ Opens z → ¬ (c = '\r' ∧ (y ++ z).head? = some '\n'))
    (hline : ∀ z, z = [] ∨ Opens z → ¬ (c = '-' ∧ (y ++ z).head? = some '-'))
    (hblock : ∀ z, z = [] ∨ Opens z → ¬ (c = '/' ∧ (y ++ z).head? = some '*')) :
    Within (front? c) y := by
  have hform : ∀ z, z = [] ∨ Opens z → front? c (y ++ z) =
      if c = '\'' then string? .string (y ++ z)
      else if c = '"' then
        (unquoted? '"' (y ++ z)).map fun found => (.token .quotedName found.1, found.2)
      else if c = '\x60' then some (.token .word ['\x60'], y ++ z)
      else if c = '$' then dollar? (y ++ z)
      else if (y ++ z).head? = some '\'' then
        (stringMark? c).elim (some (front?.plain c (y ++ z))) fun kind => string? kind (y ++ z).tail
      else some (front?.plain c (y ++ z)) := by
    intro z hz
    rw [front?_eq, if_neg (hend z hz), if_neg (hline z hz), if_neg (hblock z hz)]
  by_cases hquote : c = '\''
  · exact (within_string? .string y).same fun z hz => by rw [hform z hz, if_pos hquote]
  by_cases hdouble : c = '"'
  · have hname : Within (unquoted? '"') y := within_unquoted? (by decide) y
    exact (hname.map (g := .token .quotedName)).same fun z hz => by
      rw [hform z hz, if_neg hquote, if_pos hdouble]
  by_cases htick : c = '\x60'
  · intro z hz found hfound _
    rw [hform z (Or.inr hz), if_neg hquote, if_neg hdouble, if_pos htick] at hfound
    have hnil := hform [] (Or.inl rfl)
    rw [if_neg hquote, if_neg hdouble, if_pos htick, List.append_nil] at hnil
    obtain rfl := Option.some.inj hfound
    exact ⟨y, hnil, rfl⟩
  by_cases hdollar : c = '$'
  · exact (within_dollar? y).same fun z hz => by
      rw [hform z hz, if_neg hquote, if_neg hdouble, if_neg htick, if_pos hdollar]
  have hform' : ∀ z, z = [] ∨ Opens z → front? c (y ++ z) =
      if (y ++ z).head? = some '\'' then
        (stringMark? c).elim (some (front?.plain c (y ++ z))) fun kind => string? kind (y ++ z).tail
      else some (front?.plain c (y ++ z)) := by
    intro z hz
    rw [hform z hz, if_neg hquote, if_neg hdouble, if_neg htick, if_neg hdollar]
  cases y with
  | nil =>
    refine (within_plain c []).same fun z hz => ?_
    rw [hform' z hz, if_neg]
    exact (head?_mark hz).2.2
  | cons d y =>
    by_cases hd : d = '\''
    · cases hkind : stringMark? c with
      | none =>
        exact (within_plain c (d :: y)).same fun z hz => by
          rw [hform' z hz, hkind, List.cons_append, List.head?_cons, if_pos (congrArg some hd)]
          rfl
      | some kind =>
        exact (within_string? kind y).same fun z hz => by
          rw [hform' z hz, hkind, List.cons_append, List.head?_cons, if_pos (congrArg some hd)]
          rfl
    · refine (within_plain c (d :: y)).same fun z hz => ?_
      rw [hform' z hz, if_neg]
      exact fun h => hd (Option.some.inj h)

/-- A piece that does not reach past the mark of a comment is what it is without the comment. -/
theorem within_front? (c : Char) (y : Text) : Within (front? c) y := by
  cases y with
  | nil =>
    by_cases hc : c = '-'
    · subst hc
      intro z hz found hfound hlength
      have hplain := within_plain '-' [] hz
      obtain ⟨d, t, rfl, rfl | rfl⟩ := hz.exists_cons
      · obtain rfl := Option.some.inj hfound
        have hle := (List.dropWhile_sublist (fun c => c != '\n' && c != '\r') (l := t)).length_le
        exact absurd hlength (by simp only [List.length_cons]; omega)
      · exact hplain found hfound hlength
    · exact within_front?_of_ne (fun z hz h => (head?_mark hz).1 h.2) (fun z _ h => hc h.1)
        fun z hz h => (head?_mark hz).2.1 h.2
  | cons d y =>
    have hform := fun z => front?_eq c (d :: y ++ z)
    simp only [List.cons_append, List.head?_cons, List.tail_cons, Option.some.injEq] at hform
    by_cases hend : c = '\r' ∧ d = '\n'
    · exact Within.of_eq (b := .lineEnd) (r := y) fun z => by rw [List.cons_append, hform, if_pos hend]
    by_cases hline : c = '-' ∧ d = '-'
    · exact (within_lineComment y).same fun z _ => by
        rw [List.cons_append, hform, if_neg hend, if_pos hline]
    by_cases hblock : c = '/' ∧ d = '*'
    · exact (within_block? 0 y).step (g := .comment) fun z => by
        rw [List.cons_append, hform, if_neg hend, if_neg hline, if_pos hblock]
    exact within_front?_of_ne (fun _ _ h => hend ⟨h.1, Option.some.inj h.2⟩)
      (fun _ _ h => hline ⟨h.1, Option.some.inj h.2⟩) fun _ _ h => hblock ⟨h.1, Option.some.inj h.2⟩

/-- A script that is read piece by piece up to a place, with the pieces before the place. -/
inductive Reaches (z : Text) : Text → List Piece → Prop where
  | here : Reaches z z []
  | piece {c : Char} {t rest : Text} {p : Piece} {ps : List Piece} (h : front? c t = some (p, rest))
    (hps : Reaches z (t.drop (t.length - rest.length)) ps) : Reaches z (c :: t) (p :: ps)

variable {t : Text} {ps : List Piece}

theorem pieces?_cons {c : Char} {rest : Text} {p : Piece} (h : front? c t = some (p, rest)) :
    pieces? (c :: t) = (pieces? (t.drop (t.length - rest.length))).map (p :: ·) := by
  rw [pieces?, h]

/-- The pieces of a script are those before a place and those after it. -/
theorem Reaches.pieces?_eq (h : Reaches z t ps) : pieces? t = (pieces? z).map (ps ++ ·) := by
  induction h with
  | here => simp
  | piece hfront _ ih =>
    rw [pieces?_cons hfront, ih, Option.map_map]
    rfl

theorem Reaches.length_le (h : Reaches z t ps) : z.length ≤ t.length := by
  induction h with
  | here => exact Nat.le_refl _
  | piece _ _ ih =>
    rw [List.length_drop] at ih
    rw [List.length_cons]
    omega

/-- The pieces before the mark of a comment are those of the text before it. -/
theorem Reaches.pieces?_before (hz : Opens z) (h : Reaches z (y ++ z) ps) : pieces? y = some ps := by
  generalize ht : y ++ z = t at h
  induction h generalizing y with
  | here =>
    obtain rfl : y = [] := List.append_left_eq_self.mp ht
    rw [pieces?]
  | @piece c t rest p ps hfront hps ih =>
    have hle := hps.length_le
    rw [List.length_drop] at hle
    cases y with
    | nil =>
      obtain rfl : z = c :: t := ht
      rw [List.length_cons] at hle
      omega
    | cons d y =>
      obtain ⟨rfl, htail⟩ := List.cons.inj ht
      obtain rfl : y ++ z = t := htail
      have hlength : z.length ≤ rest.length := by omega
      obtain ⟨r, hr, rfl⟩ : ∃ r, front? d y = some (p, r) ∧ rest = r ++ z :=
        within_front? d y hz (p, rest) hfront hlength
      have hsize : (y ++ z).length - (r ++ z).length = y.length - r.length := by
        simp only [List.length_append]
        omega
      have hdrop : (y ++ z).drop (y.length - r.length) = y.drop (y.length - r.length) ++ z :=
        List.drop_append_of_le_length (Nat.sub_le _ _)
      rw [pieces?_cons hr, ih (by rw [hsize, hdrop]), Option.map_some]

/-- What the piece of a comment holds of its words. -/
def said : Mark → Text → Text
  | .line, words => ' ' :: words
  | .block, words => words

theorem pieces?_append {c : Char} {u post : Text} {p : Piece}
    (h : front? c (u ++ post) = some (p, post)) :
    pieces? (c :: (u ++ post)) = (pieces? post).map (p :: ·) := by
  have hsize : (u ++ post).length - post.length = u.length := by
    rw [List.length_append]
    omega
  rw [pieces?_cons h, hsize, List.drop_left]

theorem block?_append {depth : Nat} {t words r : Text} (h : block? depth t = some (words, r))
    (post : Text) : block? depth (t ++ post) = some (words, r ++ post) := by
  fun_induction block? depth t generalizing words with
  | case1 => cases h
  | case2 t =>
    cases h
    rfl
  | case3 t depth ih =>
    obtain ⟨⟨words, r⟩, hinner, hwords⟩ := Option.map_eq_some_iff.mp h
    cases hwords
    simp [block?, ih hinner]
  | case4 depth t ih =>
    obtain ⟨⟨words, r⟩, hinner, hwords⟩ := Option.map_eq_some_iff.mp h
    cases hwords
    simp [block?, ih hinner]
  | case5 depth c t hend hstart ih =>
    obtain ⟨⟨words, r⟩, hinner, hwords⟩ := Option.map_eq_some_iff.mp h
    cases hwords
    cases t with
    | nil => cases hinner
    | cons d t =>
      have hend' : ¬ (c = '*' ∧ d = '/') := fun h => hend t h.1 (h.2 ▸ rfl)
      have hstart' : ¬ (c = '/' ∧ d = '*') := fun h => hstart t h.1 (h.2 ▸ rfl)
      have hinner' := ih hinner
      rw [List.cons_append] at hinner' ⊢
      rw [List.cons_append, block?_cons, if_neg hend', if_neg hstart', hinner']
      rfl

theorem pieces?_line {words post : Text} (hwords : ∀ c ∈ words, c ≠ '\n' ∧ c ≠ '\r')
    (hpost : ∀ c ∈ post.head?, c = '\n' ∨ c = '\r') :
    pieces? (Mark.line.say words ++ post) = (pieces? post).map (.comment (said .line words) :: ·) := by
  have hline : ∀ c ∈ ' ' :: words, (c != '\n' && c != '\r') = true := by
    simpa using hwords
  have hrest : post.dropWhile (fun c => c != '\n' && c != '\r') = post ∧
      post.takeWhile (fun c => c != '\n' && c != '\r') = [] := by
    cases post with
    | nil => exact ⟨rfl, rfl⟩
    | cons c post => rcases hpost c rfl with rfl | rfl <;> exact ⟨rfl, rfl⟩
  have hfront : front? '-' ('-' :: ' ' :: words ++ post) =
      some (.comment (said .line words), post) := by
    show some (Piece.comment ((' ' :: words ++ post).takeWhile fun c => c != '\n' && c != '\r'),
      (' ' :: words ++ post).dropWhile fun c => c != '\n' && c != '\r') = _
    rw [List.takeWhile_append_of_pos hline, List.dropWhile_append_of_pos hline, hrest.1, hrest.2,
      List.append_nil]
    rfl
  exact pieces?_append hfront

theorem pieces?_block {words : Text} (h : block? 0 (words ++ "*/".toList) = some (words, []))
    (post : Text) :
    pieces? (Mark.block.say words ++ post) =
      (pieces? post).map (.comment (said .block words) :: ·) := by
  have hfront : front? '/' ('*' :: (words ++ "*/".toList) ++ post) =
      some (.comment (said .block words), post) := by
    show (block? 0 (words ++ "*/".toList ++ post)).map _ = _
    rw [block?_append h]
    rfl
  have hform : Mark.block.say words ++ post = '/' :: ('*' :: (words ++ "*/".toList) ++ post) := by
    simp [Mark.say]
  rw [hform, pieces?_append hfront]

end SchemaDiagram.Postgres.Token
