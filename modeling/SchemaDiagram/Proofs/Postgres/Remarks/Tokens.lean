import Mathlib.Data.List.Forall2
import SchemaDiagram.Postgres.TypeName

/-!
Readings pass over what comments say. Tokens are alike when they differ in the words of their
comments alone; a reading does the same to tokens that are alike, whatever it looks for.
-/
namespace SchemaDiagram.Postgres

/-- What `f` leaves of the words of each comment. -/
def hushed (f : Text → Text) (remarks : List Text) : List Text := remarks.map f

theorem isEmpty_of_hushed {f : Text → Text} {remarks remarks' : List Text}
    (h : hushed f remarks = hushed f remarks') : remarks.isEmpty = remarks'.isEmpty := by
  cases remarks <;> cases remarks' <;> simp_all [hushed]

/-- Two tokens that agree but for words of comments of which `f` leaves the same. A word has
letters. -/
inductive Token.Alike (f : Text → Text) : Token → Token → Prop where
  | mk {kind : TokenKind} {text : Text} {remarks remarks' : List Text}
    (letters : kind = .word → text ≠ []) (h : hushed f remarks = hushed f remarks') :
    Alike f ⟨kind, text, remarks⟩ ⟨kind, text, remarks'⟩

/-- Two lists of tokens that are alike one by one. -/
abbrev Alike (f : Text → Text) (ts ts' : List Token) : Prop := List.Forall₂ (Token.Alike f) ts ts'

variable {α β γ δ : Type} {R : α → β → Prop} {S : γ → δ → Prop} {f : Text → Text}
  {ts ts' us us' : List Token} {t t' : Token}

theorem Alike.drop (h : Alike f ts ts') (n : Nat) : Alike f (ts.drop n) (ts'.drop n) := by
  induction h generalizing n with
  | nil => simp
  | cons ht hts ih =>
    cases n with
    | zero => exact List.Forall₂.cons ht hts
    | succ n => exact ih n

theorem Alike.take (h : Alike f ts ts') (n : Nat) : Alike f (ts.take n) (ts'.take n) := by
  induction h generalizing n with
  | nil => simp
  | cons ht hts ih =>
    cases n with
    | zero => exact List.Forall₂.nil
    | succ n => exact List.Forall₂.cons ht (ih n)

/-- A test of tokens that does not look at their comments. -/
def Deaf (test : Token → Bool) : Prop := ∀ {f t t'}, Token.Alike f t t' → test t = test t'

theorem deaf_kind (kind : TokenKind) : Deaf fun t => t.kind == kind := by
  rintro _ _ _ ⟨⟩
  rfl

namespace Reading

/-- Two readings do the same to tokens that are alike: both fail, or what they find is related and
what they leave is alike. -/
def Sim (f : Text → Text) (R : α → β → Prop) (r : Reading α) (r' : Reading β) : Prop :=
  ∀ ⦃ts ts'⦄, Alike f ts ts' →
    Option.Rel (fun found found' => R found.1 found'.1 ∧ Alike f found.2 found'.2) (r ts) (r' ts')

theorem Sim.pure {a : α} {b : β} (h : R a b) : Sim f R (pure a) (pure b) :=
  fun _ _ hts => .some ⟨h, hts⟩

theorem Sim.failure : Sim f R failure failure := fun _ _ _ => .none

theorem Sim.bind {r : Reading α} {r' : Reading β} {k : α → Reading γ} {k' : β → Reading δ}
    (hr : Sim f R r r') (hk : ∀ a b, R a b → Sim f S (k a) (k' b)) : Sim f S (r >>= k) (r' >>= k') := by
  intro ts ts' hts
  have h := hr hts
  show Option.Rel _ ((r ts).bind fun found => k found.1 found.2)
    ((r' ts').bind fun found => k' found.1 found.2)
  generalize r ts = o, r' ts' = o' at h
  cases h with
  | none => exact .none
  | some h => exact hk _ _ h.1 h.2

/-- What is found alike may be used alike. -/
theorem Sim.seq {r : Reading α} {k : α → Reading γ} {k' : α → Reading δ}
    (hr : Sim f Eq r r) (hk : ∀ a, Sim f S (k a) (k' a)) : Sim f S (r >>= k) (r >>= k') :=
  hr.bind fun a _ h => h ▸ hk a

/-- A reading that may find nothing goes on in one of two ways. -/
theorem Sim.bind? {r : Reading (Option α)} {r' : Reading (Option β)} {k : Option α → Reading γ}
    {k' : Option β → Reading δ} (hr : Sim f (Option.Rel R) r r') (hnone : Sim f S (k none) (k' none))
    (hsome : ∀ a b, R a b → Sim f S (k (some a)) (k' (some b))) : Sim f S (r >>= k) (r' >>= k') :=
  hr.bind fun _ _ ho => by
    cases ho with
    | none => exact hnone
    | some h => exact hsome _ _ h

theorem Sim.ite {c : Prop} [Decidable c] {r s : Reading α} {r' s' : Reading β} (hr : Sim f R r r')
    (hs : Sim f R s s') : Sim f R (if c then r else s) (if c then r' else s') := by
  split
  · exact hr
  · exact hs

theorem Sim.map {g : α → γ} {g' : β → δ} {r : Reading α} {r' : Reading β} (hr : Sim f R r r')
    (h : ∀ a b, R a b → S (g a) (g' b)) : Sim f S (g <$> r) (g' <$> r') := by
  intro ts ts' hts
  have hfound := hr hts
  show Option.Rel _ ((r ts).bind fun found => some (g found.1, found.2))
    ((r' ts').bind fun found => some (g' found.1, found.2))
  generalize r ts = o, r' ts' = o' at hfound
  cases hfound with
  | none => exact .none
  | some hfound => exact .some ⟨h _ _ hfound.1, hfound.2⟩

theorem sim_get : Sim f (Alike f) get get := fun _ _ hts => .some ⟨hts, hts⟩

theorem Sim.set {k : PUnit → Reading γ} {k' : PUnit → Reading δ} (h : Alike f ts ts')
    (hk : Sim f S (k ()) (k' ())) : Sim f S (set ts >>= k) (set ts' >>= k') :=
  fun _ _ _ => hk h

theorem sim_modify_drop (n : Nat) : Sim f Eq (modify (List.drop n)) (modify (List.drop n)) :=
  fun _ _ hts => .some ⟨rfl, hts.drop n⟩

theorem sim_length (k : Nat → Reading γ) (k' : Nat → Reading δ) (h : ∀ n, Sim f S (k n) (k' n)) :
    Sim f S (do k (← get).length) (do k' (← get).length) :=
  sim_get.bind fun _ _ hts => hts.length_eq ▸ h _

theorem sim_sees {test : Token → Bool} (h : Deaf test) : Sim f Eq (sees test) (sees test) :=
  sim_get.bind fun _ _ hts => Sim.pure (by
    cases hts with
    | nil => rfl
    | cons ht _ => exact h ht)

theorem Sim.mono {r : Reading α} {r' : Reading β} {T : α → β → Prop} (h : Sim f R r r')
    (hRT : ∀ a b, R a b → T a b) : Sim f T r r' := by
  intro ts ts' hts
  have hfound := h hts
  generalize r ts = o, r' ts' = o' at hfound
  cases hfound with
  | none => exact .none
  | some hfound => exact .some ⟨hRT _ _ hfound.1, hfound.2⟩

/-- A token that is taken passes the test. -/
theorem sim_take {test : Token → Bool} (h : Deaf test) :
    Sim f (Option.Rel fun t t' => Token.Alike f t t' ∧ test t = true) (take? test) (take? test) := by
  refine sim_get.bind fun ts ts' hts => ?_
  cases hts with
  | nil => exact Sim.pure .none
  | @cons t _ _ _ ht hts =>
    dsimp only
    rw [← h ht]
    cases htest : test t with
    | true => exact Sim.set hts (Sim.pure (.some ⟨ht, htest⟩))
    | false => exact Sim.pure .none

theorem sim_take? {test : Token → Bool} (h : Deaf test) :
    Sim f (Option.Rel (Token.Alike f)) (take? test) (take? test) :=
  (sim_take h).mono fun _ _ ho => by
    cases ho with
    | none => exact .none
    | some ht => exact .some ht.1

theorem isSome_eq {o : Option α} {o' : Option β} (h : Option.Rel R o o') : o.isSome = o'.isSome := by
  cases h <;> rfl

theorem sim_taken {test : Token → Bool} (h : Deaf test) :
    Sim f Eq (do return (← take? test).isSome) (do return (← take? test).isSome) :=
  (sim_take? h).bind fun _ _ ho => Sim.pure (isSome_eq ho)

theorem deaf_isWord (k : String) : Deaf (Token.isWord k) := by
  rintro _ _ _ ⟨⟩
  rfl

theorem deaf_isSign (s : String) : Deaf (Token.isSign s) := by
  rintro _ _ _ ⟨⟩
  rfl

theorem deaf_anyWord (ks : List String) : Deaf fun t => ks.any t.isWord := by
  rintro _ _ _ ⟨⟩
  rfl

theorem sim_word (k : String) : Sim f Eq (word k) (word k) := sim_taken (deaf_isWord k)

theorem sim_sign (s : String) : Sim f Eq (sign s) (sign s) := sim_taken (deaf_isSign s)

theorem sim_oneOf (ks : List String) : Sim f Eq (oneOf ks) (oneOf ks) := sim_taken (deaf_anyWord ks)

theorem startsWith_eq (ks : List String) (h : Alike f ts ts') : startsWith ks ts = startsWith ks ts' := by
  induction ks generalizing ts ts' with
  | nil => rfl
  | cons k ks ih =>
    cases h with
    | nil => rfl
    | cons ht hts => rw [startsWith, startsWith, deaf_isWord k ht, ih hts]

theorem sim_words (ks : List String) : Sim f Eq (words ks) (words ks) := by
  refine sim_get.bind fun ts ts' hts => ?_
  rw [startsWith_eq ks hts]
  exact Sim.ite (Sim.set (hts.drop _) (Sim.pure rfl)) (Sim.pure rfl)

theorem Sim.need {r : Reading Bool} (h : Sim f Eq r r) : Sim f Eq (need r) (need r) :=
  h.seq fun _ => Sim.ite (Sim.pure rfl) Sim.failure

theorem Sim.need? {r : Reading (Option α)} {r' : Reading (Option β)}
    (h : Sim f (Option.Rel R) r r') : Sim f R (need? r) (need? r') :=
  h.bind? Sim.failure fun _ _ h => Sim.pure h

theorem Sim.attempt? {r : Reading (Option α)} {r' : Reading (Option β)}
    (h : Sim f (Option.Rel R) r r') : Sim f (Option.Rel R) (attempt? r) (attempt? r') := by
  intro ts ts' hts
  have hfound := h hts
  unfold Reading.attempt?
  generalize r ts = o, r' ts' = o' at hfound
  cases hfound with
  | none => exact .some ⟨.none, hts⟩
  | some hfound =>
    obtain ⟨ha, hrest⟩ := hfound
    rename_i found found'
    obtain ⟨a, rest⟩ := found
    obtain ⟨a', rest'⟩ := found'
    dsimp only at ha hrest
    cases ha with
    | none => exact .some ⟨.none, hts⟩
    | some ha => exact .some ⟨.some ha, hrest⟩

theorem toList_forall₂ {o : Option α} {o' : Option β} (h : Option.Rel R o o') :
    List.Forall₂ R o.toList o'.toList := by
  cases h with
  | none => exact .nil
  | some h => exact .cons h .nil

theorem Sim.listed {item : Reading (Option α)} {item' : Reading (Option β)}
    (h : Sim f (Option.Rel R) item item') (fuel : Nat) :
    Sim f (List.Forall₂ R) (listed item fuel) (listed item' fuel) := by
  induction fuel with
  | zero => exact Sim.failure
  | succ fuel ih =>
    refine h.bind fun _ _ ho => (sim_sign _).seq fun _ => Sim.ite ?_ (Sim.pure (toList_forall₂ ho))
    exact ih.bind fun _ _ hrest => Sim.pure (List.rel_append (toList_forall₂ ho) hrest)

theorem Sim.enclosed {item : Reading (Option α)} {item' : Reading (Option β)}
    (h : Sim f (Option.Rel R) item item') : Sim f (List.Forall₂ R) (enclosed item) (enclosed item') :=
  (sim_sign _).need.seq fun _ => sim_get.bind fun _ _ hts => by
    rw [hts.length_eq]
    exact (h.listed _).bind fun _ _ hfound => (sim_sign _).need.seq fun _ => Sim.pure hfound

theorem group?_alike (h : Alike f ts ts') (depth : Nat) :
    Option.Rel (fun found found' => Alike f found.1 found'.1 ∧ Alike f found.2 found'.2)
      (group? depth ts) (group? depth ts') := by
  induction h generalizing depth with
  | nil => exact .none
  | @cons t t' ts ts' ht hts ih =>
    have hcons : ∀ depth, Option.Rel
        (fun found found' => Alike f found.1 found'.1 ∧ Alike f found.2 found'.2)
        ((group? depth ts).map fun found => (t :: found.1, found.2))
        ((group? depth ts').map fun found => (t' :: found.1, found.2)) := by
      intro depth
      have hrest := ih depth
      generalize group? depth ts = o, group? depth ts' = o' at hrest
      cases hrest with
      | none => exact .none
      | some hrest => exact .some ⟨.cons ht hrest.1, hrest.2⟩
    unfold group?
    rw [deaf_isSign _ ht, deaf_isSign _ ht]
    split
    · cases depth with
      | zero => exact .some ⟨.nil, hts⟩
      | succ depth => exact hcons depth
    · exact hcons _

theorem sim_group : Sim f (Alike f) group group := by
  refine sim_get.bind fun ts ts' hts => ?_
  have h := group?_alike hts 0
  generalize group? 0 ts = o, group? 0 ts' = o' at h
  cases h with
  | none => exact Sim.failure
  | some h => exact Sim.set h.2 (Sim.pure h.1)

theorem deaf_isName : Deaf isName := by
  rintro _ _ _ ⟨⟩
  rfl

theorem deaf_isPlainName : Deaf isPlainName := by
  rintro _ _ _ ⟨⟩
  rfl

theorem deaf_isAnyName : Deaf isAnyName := by
  rintro _ _ _ ⟨⟩
  rfl

theorem sim_name? : Sim f (Option.Rel (Token.Alike f)) name? name? := sim_take? deaf_isName

theorem sim_anyName? : Sim f (Option.Rel (Token.Alike f)) anyName? anyName? := sim_take? deaf_isAnyName

theorem sim_plainWord? : Sim f (Option.Rel (Token.Alike f)) plainWord? plainWord? :=
  sim_take? (by rintro _ _ _ ⟨⟩; rfl)

theorem comments_getLast? (h : Alike f ts ts') :
    hushed f (ts.getLast?.elim [] (·.comments)) = hushed f (ts'.getLast?.elim [] (·.comments)) := by
  have hreverse := List.rel_reverse h
  rw [List.getLast?_eq_head?_reverse, List.getLast?_eq_head?_reverse]
  generalize ts.reverse = us, ts'.reverse = us' at hreverse
  cases hreverse with
  | nil => rfl
  | cons ht _ =>
    obtain ⟨-, hremarks⟩ := ht
    exact hremarks

/-- As many comments go along with the last token of a reading. -/
theorem Sim.withRemarks {r : Reading α} {r' : Reading β} {k : α × List Text → Reading γ}
    {k' : β × List Text → Reading δ} (h : Sim f R r r')
    (hk : ∀ a b remarks remarks', R a b → hushed f remarks = hushed f remarks' →
      Sim f S (k (a, remarks)) (k' (b, remarks'))) :
    Sim f S (withRemarks r >>= k) (withRemarks r' >>= k') := by
  refine Sim.bind (R := fun found found' => R found.1 found'.1 ∧ hushed f found.2 = hushed f found'.2)
    ?_ fun _ _ hfound => hk _ _ _ _ hfound.1 hfound.2
  refine sim_get.bind fun ts ts' hts => h.bind fun a b hab => sim_get.bind fun us us' hus => ?_
  refine Sim.pure ⟨hab, comments_getLast? ?_⟩
  rw [hts.length_eq, hus.length_eq]
  exact hts.take _

end Reading

/-- Two types that differ in the words of their comments alone. The name of a type has letters. -/
structure TypeName.Alike (f : Text → Text) (t t' : TypeName) : Prop where
  base : t.base = t'.base
  letters : t.base ≠ []
  arguments : t.arguments = t'.arguments
  arrays : t.arrays = t'.arrays
  remarks : hushed f t.remarks = hushed f t'.remarks

/-- The same text, which is not empty. -/
def SameLetters (a b : Text) : Prop := a = b ∧ a ≠ []

namespace Reading

theorem letters_builtIn : (∀ entry ∈ TypeName.builtInPhrases, entry.2.toList ≠ []) ∧
    (∀ entry ∈ TypeName.builtIn, entry.2.toList ≠ []) ∧
    ∀ entry ∈ TypeName.unsigned, entry.2.toList ≠ [] := by decide +kernel

theorem deaf_spells (k : String) : Deaf (Token.spells k) := by
  rintro _ _ _ ⟨⟩
  rfl

theorem sim_builtIn? : Sim f (Option.Rel SameLetters) builtIn? builtIn? := by
  refine sim_get.bind fun ts ts' hts => ?_
  have hphrase : (fun entry : List String × String => startsWith entry.1 ts) =
      fun entry => startsWith entry.1 ts' := funext fun entry => startsWith_eq entry.1 hts
  rw [hphrase]
  split
  · next hfind =>
    have hletters := letters_builtIn.1 _ (List.mem_of_find?_eq_some hfind)
    exact Sim.set (hts.drop _) (Sim.pure (.some ⟨rfl, hletters⟩))
  · cases hts with
    | nil => exact Sim.pure .none
    | @cons t t' ts ts' ht hts =>
      have hspelled : (fun entry : String × String => t.spells entry.1) =
          fun entry => t'.spells entry.1 := funext fun entry => deaf_spells entry.1 ht
      dsimp only
      rw [hspelled]
      split
      · next hfind =>
        have hletters := letters_builtIn.2.1 _ (List.mem_of_find?_eq_some hfind)
        exact Sim.set hts (Sim.pure (.some ⟨rfl, hletters⟩))
      · exact Sim.pure .none

theorem sim_typeArgument? : Sim f (Option.Rel Eq) typeArgument? typeArgument? := by
  unfold typeArgument?
  refine (sim_take? (by rintro _ _ _ ⟨⟩; rfl)).bind fun _ _ ho => ?_
  extract_lets found
  have hfound : ∀ value, Sim f (Option.Rel Eq) (found value) (found value) := by
    rintro (_ | value)
    · exact Sim.pure .none
    · refine sim_anyName?.bind? (Sim.pure (.some rfl)) fun _ _ ht => ?_
      cases ht
      exact Sim.pure (.some rfl)
  cases ho with
  | none =>
    have hminus : Sim f Eq ((some ∘ fun t : Token => '-' :: t.text) <$> need? (take? (·.kind == .number)))
        ((some ∘ fun t : Token => '-' :: t.text) <$> need? (take? (·.kind == .number))) :=
      (sim_take? (deaf_kind .number)).need?.map fun _ _ ht => by cases ht; rfl
    exact (sim_sign _).seq fun _ => Sim.ite (hminus.seq hfound) ((Sim.pure rfl).seq hfound)
  | some ht =>
    cases ht with
    | @mk kind => cases kind <;> exact (Sim.pure rfl).seq hfound

theorem sim_typeArguments : Sim f Eq typeArguments typeArguments := by
  refine Sim.bind (R := Option.Rel Eq) (Sim.attempt? ?_) fun _ _ ho => Sim.pure ?_
  · refine (sim_sign _).seq fun _ => Sim.ite (sim_get.bind fun _ _ hts => ?_) (Sim.pure .none)
    rw [hts.length_eq]
    refine (sim_typeArgument?.listed _).bind fun _ _ hfound => (sim_sign _).seq fun _ => ?_
    rw [List.forall₂_eq_eq_eq] at hfound
    subst hfound
    exact Sim.ite (Sim.pure (.some rfl)) (Sim.pure .none)
  · cases ho with
    | none => rfl
    | some h => exact h

theorem sim_brackets (sized : Bool) (fuel : Nat) :
    Sim f Eq (brackets sized fuel) (brackets sized fuel) := by
  induction fuel with
  | zero => exact Sim.pure rfl
  | succ fuel ih =>
    unfold brackets
    refine Sim.bind (R := Option.Rel Eq) (Sim.attempt? ?_) fun _ _ ho => ?_
    · refine (sim_sign _).seq fun _ => Sim.ite ?_ (Sim.pure .none)
      have hclosing : ∀ o o' : Option Token, Option.Rel (Token.Alike f) o o' →
          Sim f (Option.Rel Eq) (do need (sign "]"); return some (o.elim [] (·.text)))
            (do need (sign "]"); return some (o'.elim [] (·.text))) := by
        intro o o' ho
        refine (sim_sign _).need.seq fun _ => Sim.pure (.some ?_)
        cases ho with
        | none => rfl
        | some ht => cases ht; rfl
      exact Sim.ite ((sim_take? (deaf_kind .number)).bind hclosing) ((Sim.pure .none).bind hclosing)
    · cases ho with
      | none => exact Sim.pure rfl
      | some h => exact h ▸ ih.seq fun _ => Sim.pure rfl

theorem sim_arrays (sized : Bool) : Sim f Eq (arrays sized) (arrays sized) := by
  refine sim_get.bind fun _ _ hts => ?_
  dsimp only
  rw [hts.length_eq]
  exact (sim_word _).seq fun _ =>
    Sim.ite ((sim_brackets sized _).seq fun _ => Sim.pure rfl) (sim_brackets sized _)

theorem sim_zoned {base : Text} (h : base ≠ []) : Sim f SameLetters (zoned base) (zoned base) := by
  refine Sim.ite ?_ (Sim.pure ⟨rfl, h⟩)
  refine (sim_words _).seq fun _ => Sim.ite (Sim.pure ⟨rfl, ?_⟩) ?_
  · split <;> decide
  · exact (sim_words _).seq fun _ => Sim.ite (Sim.pure ⟨rfl, by decide⟩)
      ((sim_words _).seq fun _ => Sim.pure ⟨rfl, h⟩)

theorem sim_interval : Sim f SameLetters interval interval := by
  refine sim_plainWord?.bind? (Sim.pure ⟨rfl, by decide⟩) fun _ _ ht => ?_
  cases ht
  refine (sim_word _).seq fun _ => Sim.ite ?_ (Sim.pure ⟨rfl, by simp⟩)
  refine sim_plainWord?.bind? (Sim.pure ⟨rfl, by simp⟩) fun _ _ ht => ?_
  cases ht
  exact Sim.pure ⟨rfl, by simp⟩

theorem sim_builtInType? : Sim f (Option.Rel (TypeName.Alike f)) builtInType? builtInType? := by
  refine sim_builtIn?.bind? (Sim.pure .none) fun _ _ hbase => ?_
  obtain ⟨rfl, hbase⟩ := hbase
  refine sim_typeArguments.seq fun arguments => Sim.ite ?_ ?_
  · refine sim_interval.bind fun _ _ h => Sim.pure (.some ?_)
    obtain ⟨rfl, h⟩ := h
    exact ⟨rfl, h, rfl, rfl, rfl⟩
  · refine (sim_zoned hbase).bind fun base _ h => (sim_word _).seq fun _ => ?_
    obtain ⟨rfl, h⟩ := h
    extract_lets found
    have hfound : ∀ base base', SameLetters base base' →
        Sim f (Option.Rel (TypeName.Alike f)) (found base) (found base') := by
      rintro base _ ⟨rfl, h⟩
      refine Sim.pure (.some ⟨rfl, ?_, rfl, rfl, rfl⟩)
      dsimp only
      split
      · decide
      · exact h
    refine Sim.ite (Sim.bind (Sim.need? (Sim.pure ?_)) hfound) (Sim.bind (Sim.pure ⟨rfl, h⟩) hfound)
    cases hfind : TypeName.unsigned.find? (·.1.toList == base) with
    | none => exact .none
    | some entry => exact .some ⟨rfl, letters_builtIn.2.2 _ (List.mem_of_find?_eq_some hfind)⟩

theorem sim_after (fuel : Nat) : Sim f Eq (declaredName?.after fuel) (declaredName?.after fuel) := by
  induction fuel with
  | zero => exact Sim.pure rfl
  | succ fuel ih =>
    refine (sim_sign _).seq fun _ => Sim.ite ?_ (Sim.pure rfl)
    refine sim_anyName?.need?.bind fun _ _ ht => ?_
    cases ht
    exact ih.seq fun _ => Sim.pure rfl

theorem letters_written {kind : TokenKind} {text : Text} {remarks : List Text}
    (h : kind = .word → text ≠ []) (hplain : isPlainName ⟨kind, text, remarks⟩ = true) :
    (Token.written ⟨kind, text, remarks⟩) ≠ [] := by
  unfold Token.written
  split
  · simp [inQuotes]
  · refine h ?_
    simp_all [isPlainName, isName]

theorem sim_declaredName? : Sim f (Option.Rel SameLetters) declaredName? declaredName? := by
  refine (sim_take deaf_isPlainName).bind? (Sim.pure .none) fun _ _ ht => ?_
  obtain ⟨⟨hletters⟩, hplain⟩ := ht
  refine sim_get.bind fun _ _ hts => ?_
  rw [hts.length_eq]
  refine (sim_after _).seq fun _ => Sim.pure (.some ⟨rfl, ?_⟩)
  exact List.append_ne_nil_of_left_ne_nil (letters_written hletters hplain) _

theorem sim_typeName? (sized : Bool) :
    Sim f (Option.Rel (TypeName.Alike f)) (typeName? sized) (typeName? sized) := by
  refine sim_builtInType?.bind? ?_ fun _ _ h => ?_
  · refine sim_declaredName?.withRemarks fun _ _ remarks remarks' ho hremarks => ?_
    cases ho with
    | none => exact Sim.pure .none
    | some hbase =>
      exact sim_typeArguments.seq fun _ => (sim_arrays sized).seq fun _ =>
        Sim.pure (.some ⟨hbase.1, hbase.2, rfl, rfl, hremarks⟩)
  · refine (sim_arrays sized).seq fun _ => Sim.pure (.some ?_)
    exact ⟨h.base, h.letters, h.arguments, rfl, h.remarks⟩

end Reading
end SchemaDiagram.Postgres
