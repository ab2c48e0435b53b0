import SchemaDiagram.Postgres.Token
import SchemaDiagram.Proofs.Text.Cutting
import SchemaDiagram.Proofs.Text.Marks

/-!
Readers of pieces at the mark of a comment. What they find without reaching past the mark, they find
in the text before it alone.
-/
namespace SchemaDiagram.Postgres.Token

open Text (Opens Mark)

variable {β γ : Type} {read : Text → Option (β × Text)} {next : Text → Option (γ × Text)}
  {g : γ → β} {y y' z : Text}

/-- What a reader finds without reaching past the mark of a comment, it finds in the text before
the mark alone. -/
def Within (read : Text → Option (β × Text)) (y : Text) : Prop :=
  ∀ ⦃z⦄, Opens z → ∀ found ∈ read (y ++ z), z.length ≤ found.2.length →
    ∃ r, read y = some (found.1, r) ∧ found.2 = r ++ z

theorem Within.of_eq {b : β} {r : Text} (h : ∀ z, read (y ++ z) = some (b, r ++ z)) :
    Within read y := by
  intro z _ found hfound _
  have hnil := h []
  rw [List.append_nil, List.append_nil] at hnil
  rw [h, Option.mem_some_iff] at hfound
  subst hfound
  exact ⟨r, hnil, rfl⟩

/-- A reader that does what another one does. -/
theorem Within.same {next : Text → Option (β × Text)} (h : Within next y')
    (hsame : ∀ z, z = [] ∨ Opens z → read (y ++ z) = next (y' ++ z)) : Within read y := by
  intro z hz found hfound hlength
  have hnil := hsame [] (Or.inl rfl)
  rw [List.append_nil, List.append_nil] at hnil
  rw [hsame z (Or.inr hz)] at hfound
  rw [hnil]
  exact h hz found hfound hlength

theorem Within.map (h : Within next y) :
    Within (fun t => (next t).map fun found => (g found.1, found.2)) y := by
  intro z hz found hfound hlength
  obtain ⟨inner, hinner, rfl⟩ := Option.map_eq_some_iff.mp hfound
  obtain ⟨r, hr, hrest⟩ := h hz inner hinner hlength
  dsimp only
  rw [hr]
  exact ⟨r, rfl, hrest⟩

/-- A reader that goes on with another one and puts something to its answer. -/
theorem Within.step (h : Within next y')
    (hstep : ∀ z, read (y ++ z) = (next (y' ++ z)).map fun found => (g found.1, found.2)) :
    Within read y :=
  h.map.same fun z _ => hstep z

/-- What is left after the answer of a reader is put together with something. -/
theorem length_of_map {t : Text} {n : Nat} (h : ∀ found ∈ next t, found.2.length < n) :
    ∀ found ∈ (next t).map fun found => (g found.1, found.2), found.2.length < n := by
  intro found hfound
  obtain ⟨inner, hinner, rfl⟩ := Option.map_eq_some_iff.mp hfound
  exact h inner hinner

/-- A reader that leaves less than there was reads on past the mark where it starts at the mark. -/
theorem Within.nil (h : ∀ t, ∀ found ∈ read t, found.2.length < t.length) : Within read [] := by
  intro z _ found hfound hlength
  exact absurd (h z found hfound) (by omega)

/-- The last character before the mark makes no difference to a reader that leaves less. -/
theorem Within.last {c : Char} (h : ∀ t, ∀ found ∈ next t, found.2.length < t.length)
    (hstep : ∀ z, Opens z → read (c :: z) = (next z).map fun found => (g found.1, found.2)) :
    Within read [c] := by
  intro z hz found hfound hlength
  have hfound : found ∈ (next z).map fun found => (g found.1, found.2) := hstep z hz ▸ hfound
  exact absurd (length_of_map (h z) found hfound) (by omega)

theorem unquoted?_shorter (quote : Char) (t : Text) :
    ∀ found ∈ unquoted? quote t, found.2.length < t.length := by
  fun_induction unquoted? quote t with
  | case1 => simp
  | case2 => simp
  | case3 => simp
  | case4 t ih => exact length_of_map fun found h => Nat.lt_succ_of_lt (Nat.lt_succ_of_lt (ih found h))
  | case5 => simp
  | case6 c d t hc ih => exact length_of_map fun found h => Nat.lt_succ_of_lt (ih found h)

theorem within_unquoted? {quote : Char} (hq : Text.Apart quote) (y : Text) :
    Within (unquoted? quote) y := by
  have hnone : ∀ {d}, d = '-' ∨ d = '/' → d ≠ quote := by
    rintro _ (rfl | rfl)
    · exact hq.1.symm
    · exact hq.2.symm
  fun_induction unquoted? quote y with
  | case1 => exact Within.nil (unquoted?_shorter quote)
  | case2 =>
    intro z hz found hfound _
    obtain ⟨d, t, rfl, hd⟩ := hz.exists_cons
    obtain rfl : ([], d :: t) = found := by simpa [unquoted?, hnone hd] using hfound
    exact ⟨[], by simp [unquoted?], rfl⟩
  | case3 c hc =>
    refine Within.last (g := (c :: ·)) (unquoted?_shorter quote) fun z hz => ?_
    obtain ⟨d, t, rfl, -⟩ := hz.exists_cons
    simp [unquoted?, hc]
  | case4 t ih => exact ih.step (g := (quote :: ·)) fun z => by simp [unquoted?]
  | case5 d t hd => exact Within.of_eq (b := []) (r := d :: t) fun z => by simp [unquoted?, hd]
  | case6 c d t hc ih => exact ih.step (g := (c :: ·)) fun z => by simp [unquoted?, hc]

theorem unescaped?_cons (c d : Char) (t : Text) : unescaped? (c :: d :: t) =
    if c = '\'' then
      if d = '\'' then (unescaped? t).map fun found => ('\'' :: found.1, found.2) else some ([], d :: t)
    else if c = '\\' ∧ d = '\'' then (unescaped? t).map fun found => ('\'' :: found.1, found.2)
    else if c = '\\' ∧ d = '\\' then
      (unescaped? t).map fun found => ('\\' :: '\\' :: found.1, found.2)
    else (unescaped? (d :: t)).map fun found => (c :: found.1, found.2) := by
  by_cases hc : c = '\''
  · by_cases hd : d = '\'' <;> simp [unescaped?, hc, hd]
  · by_cases hb : c = '\\'
    · by_cases hd : d = '\'' <;> by_cases hd' : d = '\\' <;> simp_all [unescaped?]
    · simp [unescaped?, hc, hb]

theorem unescaped?_shorter (t : Text) :
    ∀ found ∈ unescaped? t, found.2.length < t.length := by
  fun_induction unescaped? t with
  | case1 => simp
  | case2 => simp
  | case3 => simp
  | case4 t ih => exact length_of_map fun found h => Nat.lt_succ_of_lt (Nat.lt_succ_of_lt (ih found h))
  | case5 => simp
  | case6 t ih => exact length_of_map fun found h => Nat.lt_succ_of_lt (Nat.lt_succ_of_lt (ih found h))
  | case7 t ih =>
    exact length_of_map (g := fun w => '\\' :: '\\' :: w) fun found h =>
      Nat.lt_succ_of_lt (Nat.lt_succ_of_lt (ih found h))
  | case8 c t _ _ _ _ _ _ ih => exact length_of_map fun found h => Nat.lt_succ_of_lt (ih found h)

theorem within_unescaped? (y : Text) : Within unescaped? y := by
  fun_induction unescaped? y with
  | case1 => exact Within.nil unescaped?_shorter
  | case2 =>
    intro z hz found hfound _
    obtain ⟨d, t, rfl, hd⟩ := hz.exists_cons
    have hne : d ≠ '\'' := by rcases hd with rfl | rfl <;> decide
    rw [List.singleton_append, unescaped?_cons, if_pos rfl, if_neg hne] at hfound
    obtain rfl := Option.some.inj hfound
    exact ⟨[], by simp [unescaped?], rfl⟩
  | case3 c hc =>
    refine Within.last (g := (c :: ·)) unescaped?_shorter fun z hz => ?_
    obtain ⟨d, t, rfl, hd⟩ := hz.exists_cons
    have hne : d ≠ '\'' ∧ d ≠ '\\' := by rcases hd with rfl | rfl <;> decide
    rw [unescaped?_cons, if_neg hc, if_neg fun h => hne.1 h.2, if_neg fun h => hne.2 h.2]
  | case4 t ih => exact ih.step (g := ('\'' :: ·)) fun z => by simp [unescaped?]
  | case5 t hnil hquote =>
    cases t with
    | nil => exact absurd rfl hnil
    | cons d t =>
      have hd : d ≠ '\'' := fun h => hquote t (h ▸ rfl)
      exact Within.of_eq (b := []) (r := d :: t) fun z => by simp [unescaped?_cons, hd]
  | case6 t ih => exact ih.step (g := ('\'' :: ·)) fun z => by simp [unescaped?]
  | case7 t ih => exact ih.step (g := (fun w => '\\' :: '\\' :: w)) fun z => by simp [unescaped?]
  | case8 c t _ hnil _ hc hquote hback ih =>
    cases t with
    | nil => exact absurd rfl hnil
    | cons d t =>
      refine ih.step (g := (c :: ·)) fun z => ?_
      have hd : ¬ (c = '\\' ∧ d = '\'') := fun h => hquote t h.1 (h.2 ▸ rfl)
      have hd' : ¬ (c = '\\' ∧ d = '\\') := fun h => hback t h.1 (h.2 ▸ rfl)
      rw [List.cons_append, List.cons_append, unescaped?_cons, if_neg hc, if_neg hd, if_neg hd']

theorem block?_cons (depth : Nat) (c d : Char) (t : Text) : block? depth (c :: d :: t) =
    if c = '*' ∧ d = '/' then
      if depth = 0 then some ([], t)
      else (block? (depth - 1) t).map fun found => ('*' :: '/' :: found.1, found.2)
    else if c = '/' ∧ d = '*' then
      (block? (depth + 1) t).map fun found => ('/' :: '*' :: found.1, found.2)
    else (block? depth (d :: t)).map fun found => (c :: found.1, found.2) := by
  by_cases hend : c = '*' ∧ d = '/'
  · cases depth <;> simp [block?, hend]
  · by_cases hstart : c = '/' ∧ d = '*'
    · simp [block?, hstart]
    · rw [if_neg hend, if_neg hstart, block?]
      · rintro _ rfl ⟨⟩
        exact hend ⟨rfl, rfl⟩
      · rintro _ rfl ⟨⟩
        exact hstart ⟨rfl, rfl⟩

theorem block?_shorter (depth : Nat) (t : Text) :
    ∀ found ∈ block? depth t, found.2.length < t.length := by
  fun_induction block? depth t with
  | case1 => simp
  | case2 t =>
    simp only [Option.mem_some_iff, forall_eq', List.length_cons]
    omega
  | case3 t depth ih =>
    exact length_of_map (g := fun w => '*' :: '/' :: w) fun found h =>
      Nat.lt_succ_of_lt (Nat.lt_succ_of_lt (ih found h))
  | case4 depth t ih =>
    exact length_of_map (g := fun w => '/' :: '*' :: w) fun found h =>
      Nat.lt_succ_of_lt (Nat.lt_succ_of_lt (ih found h))
  | case5 depth c t _ _ ih => exact length_of_map fun found h => Nat.lt_succ_of_lt (ih found h)

/-- The mark of a comment may end a comment, or else it is passed over. -/
theorem within_block?_last (depth : Nat) (c : Char) : Within (block? depth) [c] := by
  intro z hz found hfound hlength
  obtain ⟨d, t, rfl, hd⟩ := hz.exists_cons
  have hstart : ¬ (c = '/' ∧ d = '*') := by rcases hd with rfl | rfl <;> simp
  rw [List.singleton_append, block?_cons, if_neg hstart] at hfound
  have hshorter : found.2.length < (d :: t).length := by
    split at hfound
    · split at hfound
      · obtain rfl := Option.some.inj hfound
        exact Nat.lt_succ_self _
      · exact Nat.lt_succ_of_lt (length_of_map (g := fun w => '*' :: '/' :: w) (block?_shorter _ t) found hfound)
    · exact length_of_map (g := (c :: ·)) (block?_shorter _ (d :: t)) found hfound
  omega

theorem within_block? (depth : Nat) (y : Text) : Within (block? depth) y := by
  fun_induction block? depth y with
  | case1 => exact Within.nil (block?_shorter _)
  | case2 t => exact Within.of_eq (b := []) (r := t) fun z => by simp [block?]
  | case3 t depth ih => exact ih.step (g := fun w => '*' :: '/' :: w) fun z => by simp [block?]
  | case4 depth t ih => exact ih.step (g := fun w => '/' :: '*' :: w) fun z => by simp [block?]
  | case5 depth c t hend hstart ih =>
    cases t with
    | nil => exact within_block?_last depth c
    | cons d t =>
      refine ih.step (g := (c :: ·)) fun z => ?_
      have hend' : ¬ (c = '*' ∧ d = '/') := fun h => hend t h.1 (h.2 ▸ rfl)
      have hstart' : ¬ (c = '/' ∧ d = '*') := fun h => hstart t h.1 (h.2 ▸ rfl)
      rw [List.cons_append, List.cons_append, block?_cons, if_neg hend', if_neg hstart']

theorem untilTag?_shorter {tag : Text} (htag : tag ≠ []) (t : Text) :
    ∀ found ∈ untilTag? tag t, found.2.length < t.length := by
  fun_induction untilTag? tag t with
  | case1 => simp
  | case2 c t rest hrest =>
    simp only [Option.mem_some_iff, forall_eq']
    exact Text.after?_shorter htag hrest
  | case3 c t _ ih => exact length_of_map fun found h => Nat.lt_succ_of_lt (ih found h)

theorem within_untilTag? {tag : Text} (htag : tag ≠ []) (y : Text) : Within (untilTag? tag) y := by
  induction y with
  | nil => exact Within.nil (untilTag?_shorter htag)
  | cons c y ih =>
    intro z hz found hfound hlength
    have hlocal := Text.localAt_after? tag (c :: y) hz
    rw [List.cons_append, untilTag?] at hfound
    rw [List.cons_append] at hlocal
    split at hfound
    · next rest hrest =>
      obtain rfl := Option.some.inj hfound
      rw [hrest] at hlocal
      have hread := hlocal fun r hr => by
        obtain rfl := Option.some.inj hr
        exact hlength
      obtain ⟨r, hr, hrest'⟩ := Option.map_eq_some_iff.mp hread.symm
      exact ⟨r, by rw [untilTag?, hr], hrest'.symm⟩
    · next hnone =>
      rw [hnone] at hlocal
      have hnone' := Option.map_eq_none_iff.mp (hlocal nofun).symm
      obtain ⟨inner, hinner, rfl⟩ := Option.map_eq_some_iff.mp hfound
      obtain ⟨r, hr, hrest⟩ := ih hz inner hinner hlength
      exact ⟨r, by rw [untilTag?, hnone', hr]; rfl, hrest⟩

/-- A dollar sign that opens nothing stands alone, whatever dollar signs there are in a comment. -/
theorem within_dollar? (y : Text) : Within dollar? y := by
  intro z hz found hfound hlength
  unfold dollar? at hfound ⊢
  cases hy : y.dropWhile (· != '$') with
  | nil =>
    refine ⟨y, ?_⟩
    have hdrop : (y ++ z).dropWhile (· != '$') = z.dropWhile (· != '$') := by
      rw [List.dropWhile_append, hy]
      rfl
    have hsign : found = (.token .sign ['$'], y ++ z) := by
      dsimp only at hfound
      rw [hdrop] at hfound
      cases hz' : z.dropWhile (· != '$') with
      | nil =>
        rw [hz'] at hfound
        exact (Option.some.inj hfound).symm
      | cons d rest =>
        rw [hz'] at hfound
        dsimp only at hfound
        split at hfound
        · exact (Option.some.inj hfound).symm
        · obtain ⟨inner, hinner, rfl⟩ := Option.map_eq_some_iff.mp hfound
          have hshorter := untilTag?_shorter (by simp) rest inner hinner
          have hle := (List.dropWhile_sublist (· != '$') (l := z)).length_le
          have hlength : z.length ≤ inner.2.length := hlength
          rw [hz', List.length_cons] at hle
          omega
    subst hsign
    exact ⟨rfl, rfl⟩
  | cons d rest =>
    have htag : (y ++ z).takeWhile (· != '$') = y.takeWhile (· != '$') :=
      Text.takeWhile_append_of_stops (by simp [hy]) z
    have hrest : (y ++ z).dropWhile (· != '$') = d :: (rest ++ z) := by
      rw [List.dropWhile_append, hy]
      rfl
    dsimp only at hfound ⊢
    rw [htag, hrest] at hfound
    dsimp only at hfound ⊢
    split at hfound
    · next hsign =>
      obtain rfl := Option.some.inj hfound
      rw [if_pos hsign]
      exact ⟨y, rfl, rfl⟩
    · next hsign =>
      rw [if_neg hsign]
      obtain ⟨inner, hinner, rfl⟩ := Option.map_eq_some_iff.mp hfound
      obtain ⟨r, hr, hrest'⟩ := within_untilTag? (by simp) rest hz inner hinner hlength
      exact ⟨r, by rw [hr]; rfl, hrest'⟩

theorem takeDigits_append (hz : Opens z) (y : Text) :
    (y ++ z).takeWhile Text.isDigit = y.takeWhile Text.isDigit :=
  hz.takeWhile_append (by decide) y

theorem dropDigits_append (hz : Opens z) (y : Text) :
    (y ++ z).dropWhile Text.isDigit = y.dropWhile Text.isDigit ++ z :=
  hz.dropWhile_append (by decide) y

theorem fraction_append (hz : Opens z) (y : Text) :
    fraction (y ++ z) = ((fraction y).1, (fraction y).2 ++ z) := by
  cases y with
  | nil => rcases hz with ⟨t, rfl⟩ | ⟨t, rfl⟩ <;> rfl
  | cons c y =>
    by_cases hc : c = '.'
    · subst hc
      simp only [fraction, List.cons_append, takeDigits_append hz, dropDigits_append hz]
    · simp [fraction, hc]

/-- The minus signs of the mark start no power, since the second one is no digit. -/
theorem power_append (hz : Opens z) (y : Text) : power (y ++ z) = ((power y).1, (power y).2 ++ z) := by
  rcases y with _ | ⟨e, _ | ⟨s, _ | ⟨d, y⟩⟩⟩
  · rcases hz with ⟨t, rfl⟩ | ⟨t, rfl⟩
    · rfl
    · cases t <;> rfl
  · have hdigit : Text.isDigit '-' = false ∧ Text.isDigit '/' = false ∧ Text.isDigit '*' = false := by
      decide
    rcases hz with ⟨t, rfl⟩ | ⟨t, rfl⟩ <;> simp [power, hdigit]
  · obtain ⟨d, t, rfl, hd⟩ := hz.exists_cons
    have hdigit : Text.isDigit d = false := by rcases hd with rfl | rfl <;> decide
    cases hs : Text.isDigit s <;> by_cases he : e.toUpper = 'E' <;> simp [power, hdigit, hs, he]
  · have htake : (d :: (y ++ z)).takeWhile Text.isDigit = (d :: y).takeWhile Text.isDigit :=
      takeDigits_append hz (d :: y)
    have hdrop : (d :: (y ++ z)).dropWhile Text.isDigit = (d :: y).dropWhile Text.isDigit ++ z :=
      dropDigits_append hz (d :: y)
    have htake' : (s :: d :: (y ++ z)).takeWhile Text.isDigit = (s :: d :: y).takeWhile Text.isDigit :=
      takeDigits_append hz (s :: d :: y)
    have hdrop' : (s :: d :: (y ++ z)).dropWhile Text.isDigit =
        (s :: d :: y).dropWhile Text.isDigit ++ z := dropDigits_append hz (s :: d :: y)
    simp only [power, List.cons_append, htake, hdrop, htake', hdrop']
    split
    · rfl
    · split <;> rfl

theorem number_append (hz : Opens z) (y : Text) : number (y ++ z) = ((number y).1, (number y).2 ++ z) := by
  simp only [number, takeDigits_append hz, dropDigits_append hz, fraction_append hz, power_append hz]

theorem signAt_append {c : Char} (hz : Opens z) (hlength : z.length ≤ (signAt c (y ++ z)).2.length) :
    signAt c (y ++ z) = ((signAt c y).1, (signAt c y).2 ++ z) := by
  have hsigns := Text.findSome?_append (g := String.toList) (y := c :: y) hz longSigns
    fun s _ => Text.localAt_after? s.toList (c :: y)
  unfold signAt at hlength ⊢
  rw [List.cons_append] at hsigns
  rw [hsigns]
  · cases longSigns.findSome? fun s => (Text.after? s.toList (c :: y)).map (s.toList, ·) <;> rfl
  · intro found hfound
    rw [hfound] at hlength
    exact hlength

theorem bareWord_append (hz : Opens z) (c : Char) (y : Text) :
    bareWord c (y ++ z) = ((bareWord c y).1, (bareWord c y).2 ++ z) := by
  unfold bareWord
  dsimp only
  rw [hz.takeWhile_append (by decide), hz.dropWhile_append (by decide)]

end SchemaDiagram.Postgres.Token
