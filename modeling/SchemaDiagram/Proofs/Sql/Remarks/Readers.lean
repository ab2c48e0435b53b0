import SchemaDiagram.Proofs.Text.Marks
import SchemaDiagram.Sql.Lexeme

/-!
Readers of lexemes at the mark of a comment. Most of them stop there as they do at the end of the
text; the others go on past the mark, or find what they find without what comes after it.
-/
namespace SchemaDiagram.Sql.Lexeme

open Text (Opens Clear ClearAt LocalAt Apart)

variable {z y : Text}

theorem startsWith_append (hz : Opens z) {p : Char → Bool}
    (hp : p '-' = false ∧ p '/' = false) (y : Text) : startsWith p (y ++ z) = startsWith p y := by
  cases y with
  | nil =>
    obtain ⟨c, t, rfl, hc⟩ := hz.exists_cons
    rcases hc with rfl | rfl
    · exact hp.1
    · exact hp.2
  | cons c y => rfl

theorem clear_initialWord? : Clear initialWord? := by
  intro z hz y
  have hword := hz.dropWhile_append (p := Text.isWord) (by decide)
  cases y with
  | nil =>
    obtain ⟨c, t, rfl, hc⟩ := hz.exists_cons
    have hi : isInitial c = false := by rcases hc with rfl | rfl <;> decide
    simp [initialWord?, hi]
  | cons c y => cases hi : isInitial c <;> simp [initialWord?, hi, hword]

theorem clear_oneOf {keywords : List String} (h : ∀ k ∈ keywords, ∀ c ∈ k.toList, Apart c) :
    Clear (oneOf keywords) :=
  Text.clear_findSome? keywords fun k hk => Text.clear_wholeKeyword? (h k hk)

theorem clear_pair? {first : String} {seconds : List String} (hf : ∀ c ∈ first.toList, Apart c)
    (hs : ∀ k ∈ seconds, ∀ c ∈ k.toList, Apart c) : Clear (pair? first seconds) :=
  (Text.clear_keywordGap? hf).bind (clear_oneOf hs)

theorem clear_beforeDot? : Clear beforeDot? :=
  clear_initialWord?.filter fun _ hz y => by
    rw [Text.skipBlanks, hz.dropWhile_append (by decide), startsWith_append hz (by decide)]
    rfl

theorem clear_called? : Clear called? :=
  clear_initialWord?.filter fun _ hz => startsWith_append hz (by decide)

theorem clear_afterDot? (before : Option Char) : Clear (afterDot? before) := by
  intro z hz y
  unfold afterDot?
  split
  · exact clear_initialWord? hz y
  · rfl

theorem clear_percentMark? : Clear percentMark? := by
  have hs : Clear (Text.keyword? "S") := Text.clear_keyword? (by decide)
  have hnamed : Clear fun t => Text.after? ['('] t >>= fun t => Text.word? t >>= fun found =>
      Text.after? [')'] found.2 >>= Text.keyword? "S" := by
    refine (Text.clear_after? (by decide)).bind fun z hz y => ?_
    rw [hz.word?_append]
    cases Text.word? y with
    | none => rfl
    | some found => exact ((Text.clear_after? (by decide)).bind hs) hz found.2
  exact (Text.clear_after? (by decide)).bind (hnamed.or hs)

theorem clear_valueMark? (before : Option Char) : Clear (valueMark? before) := by
  intro z hz y
  cases y with
  | nil =>
    obtain ⟨c, t, rfl, hc⟩ := hz.exists_cons
    rcases hc with rfl | rfl <;> simp [valueMark?]
  | cons c y =>
    simp only [valueMark?, List.cons_append, hz.word?_append]
    split
    · cases Text.word? y <;> rfl
    · rfl

theorem clear_escapedWord? :
    Clear fun t => (Text.after? ['\\'] t >>= Text.word?).map (·.2) := by
  intro z hz y
  dsimp only
  rw [Text.clear_after? (by decide) hz y]
  cases Text.after? ['\\'] y with
  | none => rfl
  | some r =>
    dsimp only [Option.map_some, Option.bind_eq_bind, Option.bind_some]
    rw [hz.word?_append]
    cases Text.word? r <;> rfl

theorem clear_markedName? : Clear markedName? := by
  refine (((Text.clear_after? (by decide)).or (Text.clear_after? (by decide))).or
    (Text.clear_after? (by decide))).bind fun z hz y => ?_
  have hword := hz.dropWhile_append (p := Text.isWord) (by decide)
  obtain ⟨c, t, rfl, hc⟩ := hz.exists_cons
  have hi : isInitial c = false := by rcases hc with rfl | rfl <;> decide
  have hw : Text.isWord c = false := by rcases hc with rfl | rfl <;> decide
  match y with
  | [] => cases t <;> simp [hi]
  | [d] => simp [hw]
  | d :: e :: y =>
    simp only [List.cons_append, hword]
    split <;> rfl

theorem digits?_append (hz : Opens z) (y : Text) :
    digits? (y ++ z) = (digits? y).map fun found => (found.1, found.2 ++ z) := by
  unfold digits?
  rw [hz.takeWhile_append (by decide), hz.dropWhile_append (by decide)]
  cases y.takeWhile Text.isDigit <;> rfl

theorem clear_digits {next : Text → Text → Option Text} (h : ∀ ds, Clear (next ds)) :
    Clear fun t => digits? t >>= fun found => next found.1 found.2 := by
  intro z hz y
  dsimp only
  rw [digits?_append hz]
  cases digits? y with
  | none => rfl
  | some found => exact h found.1 hz found.2

/-- A minus sign may be skipped where no number starts with a second one. -/
theorem clear_skipMinus {next : Text → Option Text} (h : Clear next) (hnil : next [] = none)
    (hminus : ∀ t, next ('-' :: t) = none) : Clear fun t => next (skipMinus t) := by
  intro z hz y
  have hskip : ∀ c t, skipMinus (c :: t) = if c = '-' then t else c :: t := by
    intro c t
    by_cases hc : c = '-'
    · subst hc
      rfl
    · have hne : ('-' == c) = false := beq_eq_false_iff_ne.mpr (Ne.symm hc)
      simp [skipMinus, Text.after?, List.isPrefixOf?, hne, hc]
  cases y with
  | nil =>
    have hz' := h hz []
    show next (skipMinus z) = (next []).map _
    rw [hnil]
    rcases hz with ⟨t, rfl⟩ | ⟨t, rfl⟩
    · exact hminus _
    · exact hz'.trans (by rw [hnil])
  | cons c y =>
    rw [List.cons_append]
    dsimp only
    rw [hskip, hskip]
    split
    · exact h hz y
    · exact h hz (c :: y)

theorem clear_endNumber (ds : Text) (least : Nat) : Clear fun t => endNumber ds t least := by
  intro z hz y
  simp only [endNumber, startsWith_append hz (p := fun c => c == '_' || isInitial c) (by decide)]
  split
  · rfl
  · split
    · simp
    · rfl

theorem clear_run? {test : Char → Bool} (ht : test '-' = false ∧ test '/' = false) :
    Clear (run? test) := by
  intro z hz y
  unfold run?
  rw [startsWith_append hz ht, hz.dropWhile_append ht]
  split <;> rfl

theorem clear_hexNumber? : Clear hexNumber? := by
  have hnext : Clear fun t => Text.after? ['0'] t >>= fun t => Text.keyword? "X" t >>=
      run? fun c => Text.isDigit c || ('A' ≤ c && c ≤ 'F') || ('a' ≤ c && c ≤ 'f') :=
    (Text.clear_after? (by decide)).bind ((Text.clear_keyword? (by decide)).bind (clear_run? (by decide)))
  exact clear_skipMinus hnext rfl fun _ => rfl

theorem clear_powerNumber? : Clear powerNumber? := by
  have hrest : ∀ _ : Text, Clear some := fun _ _ _ _ => rfl
  have hdigits : Clear fun t => digits? t >>= fun found => some found.2 := clear_digits hrest
  have hpower : Clear fun t => Text.keyword? "E" t >>= fun t => digits? (skipMinus t) >>= fun found =>
      some found.2 :=
    (Text.clear_keyword? (by decide)).bind
      (clear_skipMinus hdigits rfl fun _ => rfl)
  have hnext : Clear fun t => digits? t >>= fun found =>
      (Text.after? ['.'] found.2 >>= fun t => digits? t >>= fun found => Text.keyword? "E" found.2 >>=
        fun t => digits? (skipMinus t) >>= fun found => some found.2).or
      (Text.keyword? "E" found.2 >>= fun t => digits? (skipMinus t) >>= fun found => some found.2) :=
    clear_digits fun _ => ((Text.clear_after? (by decide)).bind (clear_digits fun _ => hpower)).or hpower
  exact clear_skipMinus hnext rfl fun _ => rfl

theorem clear_fraction? : Clear fraction? := by
  have hnext : Clear fun t => (digits? t).elim
      (Text.after? ['.'] t >>= fun t => digits? t >>= fun found => endNumber found.1 found.2 1)
      fun found => Text.after? ['.'] found.2 >>= fun rest =>
        endNumber (rest.takeWhile Text.isDigit) (rest.dropWhile Text.isDigit) 0 := by
    have hnone : Clear fun t => Text.after? ['.'] t >>= fun t => digits? t >>= fun found =>
        endNumber found.1 found.2 1 :=
      (Text.clear_after? (by decide)).bind (clear_digits fun ds => clear_endNumber ds 1)
    have hsome : Clear fun t => Text.after? ['.'] t >>= fun rest =>
        endNumber (rest.takeWhile Text.isDigit) (rest.dropWhile Text.isDigit) 0 := by
      refine (Text.clear_after? (by decide)).bind fun z hz y => ?_
      rw [hz.takeWhile_append (by decide), hz.dropWhile_append (by decide)]
      exact clear_endNumber _ _ hz _
    intro z hz y
    dsimp only
    rw [digits?_append hz]
    cases digits? y with
    | none => exact hnone hz y
    | some found => exact hsome hz found.2
  have hform : fraction? = fun t => (digits? (skipMinus t)).elim
      (Text.after? ['.'] (skipMinus t) >>= fun t => digits? t >>= fun found =>
        endNumber found.1 found.2 1)
      fun found => Text.after? ['.'] found.2 >>= fun rest =>
        endNumber (rest.takeWhile Text.isDigit) (rest.dropWhile Text.isDigit) 0 := by
    funext t
    unfold fraction?
    cases digits? (skipMinus t) <;> rfl
  rw [hform]
  exact clear_skipMinus hnext rfl fun _ => rfl

theorem clear_integer? : Clear integer? :=
  clear_skipMinus (clear_digits fun ds => clear_endNumber ds 1) rfl fun _ => rfl

theorem clear_countedGo? : Clear countedGo? := by
  refine (Text.clear_keyword? (by decide)).bind fun z hz y => ?_
  cases y with
  | nil =>
    obtain ⟨c, t, rfl, hc⟩ := hz.exists_cons
    have hb : Text.isBlank c = false := by rcases hc with rfl | rfl <;> decide
    simp [hb]
  | cons c y =>
    have hdigits : Clear fun t => ((digits? t).map (·.2)).filter Text.atWordEnd := by
      refine Clear.filter (fun z hz y => ?_) fun _ hz => hz.atWordEnd_append
      rw [digits?_append hz]
      cases digits? y <;> rfl
    dsimp only [List.cons_append]
    split
    · exact hdigits hz y
    · rfl

theorem clear_plainWord? : Clear plainWord? := by
  intro z hz y
  have hword := hz.dropWhile_append (p := fun d => Text.isWord d || d == '$' || d == '#') (by decide)
  cases y with
  | nil =>
    obtain ⟨c, t, rfl, hc⟩ := hz.exists_cons
    have hw : Text.isWord c = false := by rcases hc with rfl | rfl <;> decide
    simp [plainWord?, hw]
  | cons c y =>
    simp only [plainWord?, List.cons_append, hword]
    split <;> rfl

theorem clear_sign? : Clear sign? := by
  intro z hz y
  cases y with
  | nil =>
    obtain ⟨c, t, rfl, hc⟩ := hz.exists_cons
    rcases hc with rfl | rfl <;> rfl
  | cons c y =>
    simp only [sign?, List.cons_append]
    split <;> rfl

theorem clear_blank : Clear fun t => if startsWith Text.isBlank t then some (t.drop 1) else none := by
  intro z hz y
  dsimp only
  rw [startsWith_append hz (by decide)]
  cases y with
  | nil => rfl
  | cons c y => split <;> rfl

theorem localAt_operator? (operators : List String) (y : Text) : LocalAt (operator? operators) y :=
  Text.localAt_findSome? operators fun o _ => Text.localAt_after? o.toList y

/-- A run that all characters before the mark belong to may go on past it. -/
theorem localAt_run? {test : Char → Bool} (hy : y ≠ []) : LocalAt (run? test) y := by
  intro z hz hstops
  cases y with
  | nil => exact absurd rfl hy
  | cons d y =>
    unfold run? at hstops ⊢
    cases hd : startsWith test (d :: y) with
    | false =>
      have hd' : startsWith test (d :: y ++ z) = false := hd
      rw [hd', if_neg (by decide), if_neg (by decide)]
      rfl
    | true =>
      have hd' : startsWith test (d :: y ++ z) = true := hd
      rw [hd', if_pos rfl] at hstops
      rw [hd', if_pos rfl, if_pos rfl]
      rw [List.dropWhile_append] at hstops ⊢
      split at hstops
      · next hnil =>
        rw [List.isEmpty_iff] at hnil
        have hlength := hstops _ rfl
        have hwhole := (List.dropWhile_sublist test (l := z)).eq_of_length_le hlength
        simp [hnil, hwhole]
      · next hnil => rw [if_neg hnil]; rfl

/-- What closes a name in brackets stands before the mark, or else past its start. -/
theorem localAt_closing {p : Char → Bool} (close : Char) (y : Text) :
    LocalAt (fun t => Text.after? [close] (t.dropWhile p)) y := by
  intro z hz hstops
  dsimp only at hstops ⊢
  rw [List.dropWhile_append] at hstops ⊢
  split at hstops
  · next hnil =>
    have hnone : Text.after? [close] (z.dropWhile p) = none := by
      cases hr : Text.after? [close] (z.dropWhile p) with
      | none => rfl
      | some r =>
        have hshorter := Text.after?_shorter (by simp) hr
        have hle := (List.dropWhile_sublist p (l := z)).length_le
        have hlength := hstops r hr
        omega
    rw [if_pos hnil, hnone, List.isEmpty_iff.mp hnil]
    rfl
  · next hnil =>
    rw [if_neg hnil]
    exact Text.clearAt_after? close (by simp) (by simpa using hnil) hz

theorem localAt_bracketName? (before : Option Char) (y : Text) : LocalAt (bracketName? before) y := by
  unfold bracketName?
  split
  · exact fun _ _ _ => rfl
  · refine ((Text.clear_after? (by decide)).clearAt y).bind_localAt fun y => ?_
    intro z hz hstops
    dsimp only at hstops ⊢
    rw [startsWith_append hz (by decide)] at hstops ⊢
    split at hstops
    · next h => rw [if_pos h, if_pos h]; rfl
    · next h =>
      rw [if_neg h, if_neg h]
      exact localAt_closing ']' y hz hstops

theorem afterBlock?_cons (c d : Char) (t : Text) :
    afterBlock? (c :: d :: t) = if c = '*' ∧ d = '/' then some t else afterBlock? (d :: t) := by
  split
  · next h =>
    obtain ⟨rfl, rfl⟩ := h
    rfl
  · next h =>
    conv => lhs; unfold afterBlock?
    split <;> simp_all

theorem afterBlock?_shorter (t : Text) : ∀ r ∈ afterBlock? t, r.length < t.length := by
  fun_induction afterBlock? t with
  | case1 => simp
  | case2 t =>
    simp only [Option.mem_some_iff, forall_eq', List.length_cons]
    omega
  | case3 _ t _ ih =>
    intro r hr
    have := ih r hr
    simp only [List.length_cons]
    omega

theorem localAt_afterBlock? (y : Text) : LocalAt afterBlock? y := by
  induction y with
  | nil => exact Text.localAt_nil afterBlock?_shorter
  | cons c y ih =>
    intro z hz hstops
    cases y with
    | nil =>
      obtain ⟨d, t, rfl, -⟩ := hz.exists_cons
      rw [List.singleton_append, afterBlock?_cons] at hstops ⊢
      split at hstops
      · exact absurd (hstops t rfl) (by simp)
      · next h =>
        have hone : afterBlock? [c] = none := by simp [afterBlock?]
        rw [if_neg h, hone]
        exact ih hz hstops
    | cons d y =>
      rw [List.cons_append, List.cons_append, afterBlock?_cons] at hstops ⊢
      rw [afterBlock?_cons]
      split at hstops
      · next h => rw [if_pos h, if_pos h]; rfl
      · next h =>
        rw [if_neg h, if_neg h]
        exact ih hz hstops

theorem afterLine_cons (c d : Char) (t : Text) : afterLine (c :: d :: t) =
    if c = '\r' ∧ d = '\n' then t else if c = '\r' ∨ c = '\n' then d :: t else afterLine (d :: t) := by
  by_cases hr : c = '\r'
  · by_cases hd : d = '\n' <;> simp [afterLine, hr, hd]
  · by_cases hn : c = '\n' <;> simp [afterLine, hr, hn]

theorem afterLine_le (t : Text) : (afterLine t).length ≤ t.length := by
  fun_induction afterLine t with
  | case1 | case3 | case4 => simp
  | case2 t => simp only [List.length_cons]; omega
  | case5 _ t _ _ _ ih => simp only [List.length_cons]; omega

theorem afterLine_mark (hz : Opens z) : (afterLine z).length < z.length := by
  rcases hz with ⟨t, rfl⟩ | ⟨t, rfl⟩
  · have hle := afterLine_le t
    simp [afterLine]
    omega
  · have hle := afterLine_le t
    simp [afterLine]
    omega

/-- A line that ends before the mark ends there whatever comes later. -/
theorem localAt_afterLine (y : Text) : LocalAt (fun t => some (afterLine t)) y := by
  induction y with
  | nil =>
    intro z hz hstops
    exact absurd (hstops _ rfl) (by have := afterLine_mark hz; simpa using this)
  | cons c y ih =>
    intro z hz hstops
    cases y with
    | nil =>
      have hmark := afterLine_mark hz
      obtain ⟨d, t, rfl, hd⟩ := hz.exists_cons
      have hn : d ≠ '\n' := by rcases hd with rfl | rfl <;> decide
      dsimp only at hstops ⊢
      rw [List.singleton_append, afterLine_cons] at hstops ⊢
      rw [if_neg (by simp [hn])] at hstops ⊢
      split at hstops
      · next h =>
        rw [if_pos h]
        rcases h with rfl | rfl <;> rfl
      · exact absurd (hstops _ rfl) (by omega)
    | cons d y =>
      dsimp only at hstops ⊢
      rw [List.cons_append, List.cons_append, afterLine_cons] at hstops ⊢
      rw [afterLine_cons]
      split at hstops
      · next h => rw [if_pos h, if_pos h]; rfl
      · next h =>
        rw [if_neg h, if_neg h]
        split at hstops
        · next h => rw [if_pos h, if_pos h]; rfl
        · next h =>
          rw [if_neg h, if_neg h]
          exact ih hz hstops

/-- The sign of a line comment stands before the mark unless its first character alone does. -/
theorem clearAt_lineSign? (hy : y ≠ []) (hminus : y ≠ ['-']) : ClearAt lineSign? y := by
  have hsign : ClearAt (Text.after? ['-', '-']) y := by
    intro z hz
    cases y with
    | nil => exact absurd rfl hy
    | cons c y =>
      cases y with
      | nil =>
        have hne : ('-' == c) = false := beq_eq_false_iff_ne.mpr fun h => hminus (h ▸ rfl)
        simp [Text.after?, List.isPrefixOf?, hne]
      | cons d y =>
        simp only [Text.after?, List.cons_append, List.isPrefixOf?]
        split
        · split <;> rfl
        · rfl
  exact hsign.or ((Text.clear_after? (by decide)).clearAt y)

theorem localAt_lineComment (hy : y ≠ []) : LocalAt (fun t => (lineSign? t).map afterLine) y := by
  by_cases hminus : y = ['-']
  · subst hminus
    rintro z (⟨t, rfl⟩ | ⟨t, rfl⟩) hstops
    · have hle := afterLine_le ('-' :: ' ' :: t)
      have hlength := hstops (afterLine ('-' :: ' ' :: t)) rfl
      simp at hle hlength
      omega
    · rfl
  · have hform : (fun t => (lineSign? t).map afterLine) =
        fun t => lineSign? t >>= fun t => some (afterLine t) := funext fun _ => Option.map_eq_bind
    rw [hform]
    exact (clearAt_lineSign? hy hminus).bind_localAt localAt_afterLine

theorem localAt_lineHint (hy : y ≠ []) :
    LocalAt (fun t => ((lineSign? t) >>= Text.after? ['+']).map afterLine) y := by
  by_cases hminus : y = ['-']
  · subst hminus
    rintro z (⟨t, rfl⟩ | ⟨t, rfl⟩) -
    · rfl
    · rfl
  · have hform : (fun t => ((lineSign? t) >>= Text.after? ['+']).map afterLine) =
        fun t => lineSign? t >>= fun t => Text.after? ['+'] t >>= fun t => some (afterLine t) := by
      funext t
      cases lineSign? t with
      | none => rfl
      | some r => exact Option.map_eq_bind
    have hplus : Clear (Text.after? ['+']) := Text.clear_after? (by decide)
    rw [hform]
    exact (clearAt_lineSign? hy hminus).bind_localAt fun t =>
      (hplus.clearAt t).bind_localAt localAt_afterLine

theorem localAt_block {start : Text} (hy : y ≠ []) (hs : ∀ c ∈ start, Apart c) :
    LocalAt (fun t => Text.after? ('/' :: start) t >>= afterBlock?) y :=
  (Text.clearAt_after? '/' hs hy).bind_localAt localAt_afterBlock?

section Literals

variable {quote : Char} {escapes : Bool}

theorem afterLiteral?_shorter (t : Text) :
    ∀ r ∈ afterLiteral? quote escapes t, r.length < t.length := by
  fun_induction afterLiteral? quote escapes t with
  | case1 => simp
  | case2 => simp
  | case3 => simp
  | case4 t ih =>
    intro r hr
    rcases Option.or_eq_some_iff.mp hr with hr | ⟨-, hr⟩
    · have := ih r hr
      simp only [List.length_cons]
      omega
    · cases hr
      simp
  | case5 => simp
  | case6 _ _ t _ _ ih =>
    intro r hr
    rcases Option.or_eq_some_iff.mp hr with hr | ⟨-, hr⟩
    · have := ih r hr
      simp only [List.length_cons]
      omega
    · cases hr
      simp only [List.length_cons]
      omega
  | case7 c d t _ _ ih =>
    intro r hr
    have := ih r hr
    simp only [List.length_cons] at this ⊢
    omega

theorem clear_some_cons (c : Char) : Clear fun t => some (c :: t) := fun _ _ _ => rfl

/-- A literal is closed before the mark as if nothing came later. -/
theorem localAt_afterLiteral? (hq : Apart quote) (y : Text) :
    LocalAt (afterLiteral? quote escapes) y := by
  have hnone : ∀ {d}, d = '-' ∨ d = '/' → d ≠ quote := by
    rintro _ (rfl | rfl)
    · exact hq.1.symm
    · exact hq.2.symm
  have hnil : LocalAt (afterLiteral? quote escapes) [] := Text.localAt_nil afterLiteral?_shorter
  fun_induction afterLiteral? quote escapes y with
  | case1 => exact hnil
  | case2 =>
    intro z hz _
    obtain ⟨d, t, rfl, hd⟩ := hz.exists_cons
    simp [afterLiteral?, hnone hd]
  | case3 c hc =>
    intro z hz hstops
    have hz' := hnil hz
    obtain ⟨d, t, rfl, hd⟩ := hz.exists_cons
    have hstep : afterLiteral? quote escapes ([c] ++ d :: t) = afterLiteral? quote escapes (d :: t) := by
      simp [afterLiteral?, hc, hnone hd]
    rw [hstep] at hstops ⊢
    rw [afterLiteral?, if_neg hc]
    exact hz' hstops
  | case4 t ih =>
    have h := ih.or ((clear_some_cons quote).localAt t)
    intro z hz hstops
    have hstep : ∀ t, afterLiteral? quote escapes (quote :: quote :: t) =
        (afterLiteral? quote escapes t).or (some (quote :: t)) := by simp [afterLiteral?]
    rw [List.cons_append, List.cons_append, hstep] at hstops ⊢
    rw [hstep]
    exact h hz hstops
  | case5 d t hd =>
    intro z hz _
    simp [afterLiteral?, hd]
  | case6 c d t hc hescaped ih =>
    have h := ih.or (fun _ _ _ => rfl : LocalAt some t)
    intro z hz hstops
    have hstep : ∀ t, afterLiteral? quote escapes (c :: d :: t) =
        (afterLiteral? quote escapes t).or (some t) := by
      intro t
      rw [afterLiteral?, if_neg hc, if_pos hescaped]
    rw [List.cons_append, List.cons_append, hstep] at hstops ⊢
    rw [hstep]
    exact h hz hstops
  | case7 c d t hc hescaped ih =>
    intro z hz hstops
    have hstep : ∀ t, afterLiteral? quote escapes (c :: d :: t) = afterLiteral? quote escapes (d :: t) := by
      intro t
      rw [afterLiteral?, if_neg hc, if_neg hescaped]
    rw [List.cons_append, List.cons_append, hstep] at hstops ⊢
    rw [hstep]
    exact ih hz hstops

theorem localAt_literal? (hq : Apart quote) (y : Text) : LocalAt (literal? quote escapes) y := by
  have hopen : Clear (Text.after? [quote]) := Text.clear_after? (by simpa using hq)
  exact (hopen.clearAt y).bind_localAt (localAt_afterLiteral? hq)

end Literals

theorem go_shorter {part : Text} (hpart : part ≠ []) (t : Text) :
    ∀ r ∈ afterOccurrence?.go part t, r.length < t.length := by
  have hle : ∀ (part t : Text), ∀ r ∈ afterOccurrence?.go part t, r.length + part.length ≤ t.length := by
    intro part
    induction part with
    | nil => simp [afterOccurrence?.go]
    | cons p part ih =>
      intro t r hr
      cases t with
      | nil => simp [afterOccurrence?.go] at hr
      | cons c t =>
        rw [afterOccurrence?.go] at hr
        split at hr
        · have := ih t r hr
          simp only [List.length_cons]
          omega
        · simp at hr
  intro r hr
  have hlength := hle part t r hr
  have hpos := List.length_pos_iff.mpr hpart
  omega

theorem localAt_go (part y : Text) : LocalAt (afterOccurrence?.go part) y := by
  induction part generalizing y with
  | nil => exact fun _ _ _ => rfl
  | cons p part ih =>
    cases y with
    | nil => exact Text.localAt_nil (go_shorter (by simp))
    | cons c y =>
      intro z hz hstops
      rw [List.cons_append, afterOccurrence?.go] at hstops ⊢
      rw [afterOccurrence?.go]
      split at hstops
      · next h =>
        rw [if_pos h, if_pos h]
        exact ih y hz hstops
      · next h =>
        rw [if_neg h, if_neg h]
        rfl

theorem afterOccurrence?_shorter {part : Text} (hpart : part ≠ []) (t : Text) :
    ∀ r ∈ afterOccurrence? part t, r.length < t.length := by
  unfold afterOccurrence?
  induction t with
  | nil => exact go_shorter hpart []
  | cons c t ih =>
    intro r hr
    rcases Option.or_eq_some_iff.mp hr with hr | ⟨-, hr⟩
    · exact go_shorter hpart (c :: t) r hr
    · exact Nat.lt_succ_of_lt (ih r hr)

theorem localAt_afterOccurrence? {part : Text} (hpart : part ≠ []) (y : Text) :
    LocalAt (afterOccurrence? part) y := by
  induction y with
  | nil => exact Text.localAt_nil (afterOccurrence?_shorter hpart)
  | cons c y ih =>
    have hhere : LocalAt (fun t => afterOccurrence?.go part (c :: t)) y :=
      fun _ hz hstops => localAt_go part (c :: y) hz hstops
    exact fun _ hz hstops => (hhere.or ih) hz hstops

theorem localAt_dollarLiteral? (before : Option Char) (y : Text) :
    LocalAt (dollarLiteral? before) y := by
  unfold dollarLiteral?
  split
  · exact fun _ _ _ => rfl
  · refine ((Text.clear_after? (by decide)).clearAt y).bind_localAt fun y => ?_
    intro z hz hstops
    have htag := hz.takeWhile_append (p := Text.isWord) (by decide) y
    have hrest := hz.dropWhile_append (p := Text.isWord) (by decide) y
    dsimp only [Text.word] at hstops ⊢
    rw [htag, hrest] at hstops ⊢
    split at hstops
    · next h =>
      rw [if_pos h, if_pos h]
      exact ((Text.clear_after? (by decide)).clearAt _).bind_localAt
        (localAt_afterOccurrence? (by simp)) hz hstops
    · next h =>
      rw [if_neg h, if_neg h]
      rfl

end SchemaDiagram.Sql.Lexeme
