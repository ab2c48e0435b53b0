import SchemaDiagram.Postgres.Expression.Reading
import SchemaDiagram.Proofs.Postgres.Remarks.Tokens

/-!
Expressions pass over what comments say: of tokens that are alike the same expressions are read, up
to the words of the comments that stand in them.
-/
namespace SchemaDiagram.Postgres

/-- A type with what `f` leaves of its comments. -/
def TypeName.hush (f : Text → Text) (t : TypeName) : TypeName :=
  { t with remarks := hushed f t.remarks }

/-- Comments stand in a type. -/
def TypeName.isNoted (t : TypeName) : Bool := !t.remarks.isEmpty

theorem TypeName.isNoted_hush (f : Text → Text) (t : TypeName) : (t.hush f).isNoted = t.isNoted := by
  rw [isNoted, hush, hushed, List.isEmpty_map, isNoted]

theorem TypeName.hush_of_plain {f : Text → Text} {t : TypeName} (h : t.isNoted = false) :
    t.hush f = t := by
  have hnone : t.remarks = [] := by simpa [isNoted] using h
  rw [hush, hnone]
  exact congrArg (TypeName.mk t.base t.arguments t.arrays) hnone.symm

theorem TypeName.Alike.hush_eq {f : Text → Text} {type type' : TypeName} (h : type.Alike f type') :
    type.hush f = type'.hush f := by
  rw [TypeName.hush, TypeName.hush, h.base, h.arguments, h.arrays, h.remarks]

namespace Expression

mutual
/-- An expression with what `f` leaves of its comments. -/
@[simp] def hush (f : Text → Text) : Expression → Expression
  | verbatim text => verbatim text
  | lead operator operand => lead operator (hush f operand)
  | binary operator remarks left right =>
    binary operator (hushed f remarks) (hush f left) (hush f right)
  | call function arguments => call function (hushAll f arguments)
  | cast operand type => cast (hush f operand) (type.hush f)
  | group items => group (hushAll f items)
  | array items => array (hushAll f items)
  | index operand items => index (hush f operand) (hushAll f items)
  | phrase parts => phrase (hushAll f parts)
  | noted operand remarks => noted (hush f operand) (hushed f remarks)

@[simp] def hushAll (f : Text → Text) : List Expression → List Expression
  | [] => []
  | e :: es => hush f e :: hushAll f es
end

mutual
/-- Comments stand in an expression. -/
def isNoted : Expression → Bool
  | verbatim _ => false
  | lead _ operand => isNoted operand
  | binary _ remarks left right => !remarks.isEmpty || isNoted left || isNoted right
  | call _ items | group items | array items | phrase items => anyNoted items
  | cast operand type => isNoted operand || type.isNoted
  | index operand items => isNoted operand || anyNoted items
  | noted operand remarks => !remarks.isEmpty || isNoted operand

def anyNoted : List Expression → Bool
  | [] => false
  | e :: es => isNoted e || anyNoted es
end

mutual
theorem isNoted_hush (f : Text → Text) : ∀ e : Expression, (hush f e).isNoted = e.isNoted
  | verbatim _ => rfl
  | lead _ operand => isNoted_hush f operand
  | binary _ remarks left right => by
    simp only [hush, isNoted, hushed, List.isEmpty_map, isNoted_hush f left, isNoted_hush f right]
  | call _ items | group items | array items | phrase items => anyNoted_hushAll f items
  | cast operand type => by simp only [hush, isNoted, isNoted_hush f operand, type.isNoted_hush]
  | index operand items => by
    simp only [hush, isNoted, isNoted_hush f operand, anyNoted_hushAll f items]
  | noted operand remarks => by
    simp only [hush, isNoted, hushed, List.isEmpty_map, isNoted_hush f operand]

theorem anyNoted_hushAll (f : Text → Text) :
    ∀ es : List Expression, anyNoted (hushAll f es) = anyNoted es
  | [] => rfl
  | e :: es => by simp only [hushAll, anyNoted, isNoted_hush f e, anyNoted_hushAll f es]
end

mutual
theorem hush_of_plain (f : Text → Text) : ∀ e : Expression, e.isNoted = false → hush f e = e
  | verbatim _, _ => rfl
  | lead operator operand, h => congrArg (lead operator) (hush_of_plain f operand h)
  | binary operator remarks left right, h => by
    simp only [isNoted, Bool.or_eq_false_iff, Bool.not_eq_false', List.isEmpty_iff] at h
    obtain ⟨⟨rfl, hleft⟩, hright⟩ := h
    rw [hush, hush_of_plain f left hleft, hush_of_plain f right hright]
    rfl
  | call function items, h => congrArg (call function) (hushAll_of_plain f items h)
  | group items, h => congrArg group (hushAll_of_plain f items h)
  | array items, h => congrArg array (hushAll_of_plain f items h)
  | phrase items, h => congrArg phrase (hushAll_of_plain f items h)
  | cast operand type, h => by
    obtain ⟨hoperand, htype⟩ := Bool.or_eq_false_iff.mp h
    rw [hush, hush_of_plain f operand hoperand, TypeName.hush_of_plain htype]
  | index operand items, h => by
    obtain ⟨hoperand, hitems⟩ := Bool.or_eq_false_iff.mp h
    rw [hush, hush_of_plain f operand hoperand, hushAll_of_plain f items hitems]
  | noted operand remarks, h => by
    simp only [isNoted, Bool.or_eq_false_iff, Bool.not_eq_false', List.isEmpty_iff] at h
    obtain ⟨rfl, hoperand⟩ := h
    rw [hush, hush_of_plain f operand hoperand]
    rfl

theorem hushAll_of_plain (f : Text → Text) :
    ∀ es : List Expression, anyNoted es = false → hushAll f es = es
  | [], _ => rfl
  | e :: es, h => by
    obtain ⟨he, hes⟩ := Bool.or_eq_false_iff.mp h
    rw [hushAll, hush_of_plain f e he, hushAll_of_plain f es hes]
end

/-- Two expressions that agree but for words of comments of which `f` leaves the same. -/
def Alike (f : Text → Text) (e e' : Expression) : Prop := e.hush f = e'.hush f

variable {f : Text → Text} {e e' d d' : Expression} {es es' : List Expression}
  {remarks remarks' : List Text}

theorem Alike.refl (e : Expression) : e.Alike f e := rfl

theorem hushAll_eq_of_alike (h : List.Forall₂ (Alike f) es es') : hushAll f es = hushAll f es' := by
  induction h with
  | nil => rfl
  | cons he _ ih => rw [hushAll, hushAll, ih, he]

theorem hush_note (e : Expression) (remarks : List Text) :
    (e.note remarks).hush f = (e.hush f).note (hushed f remarks) := by
  cases remarks <;> rfl

theorem Alike.note (h : e.Alike f e') (hr : hushed f remarks = hushed f remarks') :
    (e.note remarks).Alike f (e'.note remarks') := by
  rw [Alike, hush_note, hush_note, h, hr]

theorem Alike.lead (operator : Text) (h : e.Alike f e') :
    (Expression.lead operator e).Alike f (.lead operator e') := by
  rw [Alike, hush, hush, h]

theorem Alike.binary (operator : Text) (hr : hushed f remarks = hushed f remarks') (he : e.Alike f e')
    (hd : d.Alike f d') :
    (Expression.binary operator remarks e d).Alike f (.binary operator remarks' e' d') := by
  rw [Alike, hush, hush, he, hd, hr]

theorem Alike.call (function : Text) (h : List.Forall₂ (Alike f) es es') :
    (Expression.call function es).Alike f (.call function es') := by
  rw [Alike, hush, hush, hushAll_eq_of_alike h]

theorem Alike.group (h : List.Forall₂ (Alike f) es es') :
    (Expression.group es).Alike f (.group es') := by
  rw [Alike, hush, hush, hushAll_eq_of_alike h]

theorem Alike.array (h : List.Forall₂ (Alike f) es es') :
    (Expression.array es).Alike f (.array es') := by
  rw [Alike, hush, hush, hushAll_eq_of_alike h]

theorem Alike.index (he : e.Alike f e') (h : List.Forall₂ (Alike f) es es') :
    (Expression.index e es).Alike f (.index e' es') := by
  rw [Alike, hush, hush, hushAll_eq_of_alike h, he]

theorem Alike.phrase (h : List.Forall₂ (Alike f) es es') :
    (Expression.phrase es).Alike f (.phrase es') := by
  rw [Alike, hush, hush, hushAll_eq_of_alike h]

theorem Alike.cast {type type' : TypeName} (he : e.Alike f e') (h : type.Alike f type') :
    (Expression.cast e type).Alike f (.cast e' type') := by
  rw [Alike, hush, hush, he, h.hush_eq]

end Expression

namespace Reading

open Expression (hush hushAll)

variable {γ δ : Type} {S : γ → δ → Prop} {f : Text → Text} {operator a b : Operator}
  {operand inner signed : Operand} {e e' d : Expression} {ts ts' : List Token} {t t' : Token}

theorem hush_substringOf (es : List Expression) :
    (substringOf es).hush f = substringOf (hushAll f es) := by
  match es with
  | [] | [_] | [_, _] | [_, _, _] | _ :: _ :: _ :: _ :: _ => rfl

theorem hush_capitals (e : Expression) : (capitals e).hush f = capitals (e.hush f) := by
  cases e <;> rfl

theorem hush_withoutQuotes (e : Expression) : (withoutQuotes e).hush f = withoutQuotes (e.hush f) := by
  cases e with
  | verbatim t =>
    unfold withoutQuotes
    split <;> simp_all [hush]
  | _ => rfl

theorem hush_ite {c : Bool} {l r l' r' : Expression} (hl : l.hush f = l') (hr : r.hush f = r') :
    (if c then l else r).hush f = if c then l' else r' := by
  cases c
  · exact hr
  · exact hl

theorem hush_callOf (name : Text) (es : List Expression) :
    (callOf name es).hush f = callOf name (hushAll f es) := by
  have hempty : (hushAll f es).isEmpty = es.isEmpty := by cases es <;> rfl
  unfold callOf
  dsimp only
  rw [hempty]
  refine hush_ite rfl (hush_ite rfl (hush_ite rfl (hush_ite rfl (hush_ite rfl
    (hush_ite (hush_substringOf es) ?_)))))
  match es with
  | [] | [_] | _ :: _ :: _ :: _ => rfl
  | [a, b] =>
    refine hush_ite rfl (hush_ite rfl (hush_ite ?_ (hush_ite ?_ rfl)))
    · rw [hush, hushAll, hushAll, hushAll, hush_capitals]
    · simp only [hush, hushAll, hush_withoutQuotes]

/-- An operator that passes over what comments say: it reads the same text, and as many comments. -/
def Operator.Quiet (f : Text → Text) (operator : Operator) : Prop :=
  Sim f (Option.Rel fun a b => a.1 = b.1 ∧ hushed f a.2 = hushed f b.2) operator operator

/-- An operand that passes over what comments say. -/
def Operand.Quiet (f : Text → Text) (operand : Operand) : Prop := Sim f (Option.Rel (Expression.Alike f)) operand operand

theorem Operator.Quiet.bind {k : Option (Text × List Text) → Reading γ}
    {k' : Option (Text × List Text) → Reading δ} (h : Operator.Quiet f operator)
    (hnone : Sim f S (k none) (k' none))
    (hsome : ∀ text remarks remarks', hushed f remarks = hushed f remarks' →
      Sim f S (k (some (text, remarks))) (k' (some (text, remarks')))) :
    Sim f S (operator >>= k) (operator >>= k') := by
  refine Sim.bind? h hnone fun found found' hfound => ?_
  obtain ⟨text, remarks⟩ := found
  obtain ⟨text', remarks'⟩ := found'
  obtain ⟨rfl, hremarks⟩ := hfound
  exact hsome text remarks remarks' hremarks

theorem quiet_signOperator (signs : List (String × String)) : Operator.Quiet f (signOperator signs) := by
  refine sim_get.bind fun ts ts' hts => ?_
  cases hts with
  | nil => exact Sim.pure .none
  | cons ht hts =>
    obtain ⟨hletters, hremarks⟩ := ht
    dsimp only [List.head?_cons, Option.bind_some]
    simp only [deaf_isSign _ (.mk hletters hremarks)]
    cases signs.find? _ with
    | none => exact Sim.pure .none
    | some entry =>
      exact (sim_modify_drop 1).seq fun _ => Sim.pure (.some ⟨rfl, hremarks⟩)

theorem quiet_wordOperator (ks : List String) : Operator.Quiet f (wordOperator ks) := by
  refine (sim_take? (deaf_anyWord ks)).bind? (Sim.pure .none) fun _ _ ht => ?_
  obtain ⟨-, hremarks⟩ := ht
  exact Sim.pure (.some ⟨rfl, hremarks⟩)

theorem Operator.Quiet.either (ha : Operator.Quiet f a) (hb : Operator.Quiet f b) :
    Operator.Quiet f (either a b) :=
  ha.bind hb fun _ _ _ h => Sim.pure (.some ⟨rfl, h⟩)

theorem quiet_zone : Operator.Quiet f zone :=
  (sim_words _).withRemarks fun found _ _ _ h hremarks => by
    subst h
    cases found
    · exact Sim.pure .none
    · exact Sim.pure (.some ⟨rfl, hremarks⟩)

theorem quiet_shift : Operator.Quiet f shift := by
  refine sim_get.bind fun ts ts' hts => ?_
  cases hts with
  | nil => exact Sim.pure .none
  | cons ha hts =>
    cases hts with
    | nil => exact Sim.pure .none
    | cons hb hts =>
      cases ha
      obtain ⟨hletters, hremarks⟩ := hb
      exact Sim.ite (Sim.set hts (Sim.pure (.some ⟨rfl, hremarks⟩)))
        (Sim.ite (Sim.set hts (Sim.pure (.some ⟨rfl, hremarks⟩))) (Sim.pure .none))

theorem sim_chainFrom (ho : Operator.Quiet f operator) (hx : Operand.Quiet f operand) (fuel : Nat)
    (he : e.Alike f e') :
    Sim f (Expression.Alike f) (chainFrom operator operand e fuel) (chainFrom operator operand e' fuel) := by
  induction fuel generalizing e e' with
  | zero => exact Sim.pure he
  | succ fuel ih =>
    exact ho.bind (Sim.pure he) fun text _ _ hremarks =>
      (Sim.need? hx).bind fun _ _ hf => ih (he.binary text hremarks hf)

theorem Operand.Quiet.chain (ho : Operator.Quiet f operator) (hx : Operand.Quiet f operand) :
    Operand.Quiet f (chain operator operand) := by
  refine Sim.bind? hx (Sim.pure .none) fun _ _ he => sim_get.bind fun _ _ hts => ?_
  rw [hts.length_eq]
  exact (sim_chainFrom ho hx _ he).map fun _ _ h => .some h

theorem Operand.Quiet.sum (hu : Operand.Quiet f signed) : Operand.Quiet f (sum signed) :=
  .chain ((quiet_signOperator _).either (quiet_wordOperator _))
    (.chain (quiet_signOperator _) (.chain quiet_zone (.chain (quiet_signOperator _) hu)))

theorem Operand.Quiet.bitwise (hu : Operand.Quiet f signed) : Operand.Quiet f (bitwise signed) :=
  .chain (quiet_shift.either (quiet_signOperator _)) hu.sum

theorem alike_negate (no : Bool) (h : e.Alike f e') : (negate no e).Alike f (negate no e') := by
  cases no
  · exact h
  · exact h.lead _

theorem sim_isTest (hu : Operand.Quiet f signed) (he : e.Alike f e') :
    Sim f (Expression.Alike f) (isTest signed e) (isTest signed e') := by
  refine (sim_word _).seq fun no => (sim_words _).seq fun _ => Sim.ite ?_ ?_
  · exact (Sim.need? hu.bitwise).bind fun _ _ hf => Sim.pure (he.binary _ rfl hf)
  · refine (Sim.need? (quiet_wordOperator _)).bind fun found found' h => Sim.pure ?_
    rw [h.1]
    exact alike_negate no (he.binary _ rfl ((Expression.Alike.refl _).note h.2))

theorem sim_testOf (hi : Operand.Quiet f inner) (hu : Operand.Quiet f signed) (he : e.Alike f e') :
    Sim f (Expression.Alike f) (testOf inner signed e) (testOf inner signed e') := by
  have hnull : (Expression.binary "IS".toList [] e (.verbatim "NULL".toList)).Alike f
      (.binary "IS".toList [] e' (.verbatim "NULL".toList)) := he.binary _ rfl (.refl _)
  refine (sim_word _).seq fun _ => Sim.ite (sim_isTest hu he) ?_
  refine (sim_word _).seq fun _ => Sim.ite (Sim.pure hnull) ?_
  refine (sim_word _).seq fun _ => Sim.ite (Sim.pure (hnull.lead _)) ?_
  refine (sim_word _).seq fun no => (sim_word _).seq fun _ => Sim.ite ?_ ?_
  · refine (Sim.enclosed hi).bind fun _ _ hitems => Sim.pure ?_
    exact alike_negate no (he.binary _ rfl (.group hitems))
  refine (sim_word _).seq fun _ => Sim.ite ?_ ?_
  · refine (Sim.need? hu.bitwise).bind fun _ _ hlow => (sim_word _).need.seq fun _ => ?_
    refine (Sim.need? hu.bitwise).bind fun _ _ hhigh => Sim.pure (alike_negate no (.phrase ?_))
    exact .cons he (.cons rfl (.cons hlow (.cons rfl (.cons hhigh .nil))))
  refine (quiet_wordOperator _).bind ?_ fun text _ _ hremarks => ?_
  · cases no
    · exact (quiet_signOperator _).bind (Sim.pure he) fun text _ _ hremarks =>
        (Sim.need? hu.bitwise).bind fun _ _ hf => Sim.pure (he.binary text hremarks hf)
    · exact Sim.failure
  · exact (Sim.need? hu.bitwise).bind fun _ _ hf =>
      Sim.pure (alike_negate no (he.binary text hremarks hf))

theorem Operand.Quiet.test (hi : Operand.Quiet f inner) (hu : Operand.Quiet f signed) :
    Operand.Quiet f (test inner signed) :=
  Sim.bind? hu.bitwise (Sim.pure .none) fun _ _ he =>
    (sim_testOf hi hu he).map fun _ _ h => .some h

theorem Operand.Quiet.equality (hi : Operand.Quiet f inner) (hu : Operand.Quiet f signed) :
    Operand.Quiet f (equality inner signed) :=
  .chain (quiet_signOperator _) (.chain (quiet_signOperator _) (hi.test hu))

theorem Operand.Quiet.disjunction (hi : Operand.Quiet f inner) (hu : Operand.Quiet f signed) :
    Operand.Quiet f (disjunction inner signed) :=
  .chain (quiet_wordOperator _) (.chain (quiet_wordOperator _) (hi.equality hu))

theorem deaf_string : Deaf (·.kind == .string) := deaf_kind .string

theorem quiet_interval? : Operand.Quiet f interval? := by
  refine Sim.attempt? ((sim_word _).seq fun _ => Sim.ite ?_ (Sim.pure .none))
  refine (sim_take? (by rintro _ _ _ ⟨⟩; rfl)).bind? (Sim.pure .none) fun _ _ ht => ?_
  cases ht
  dsimp -zeta only
  extract_lets single found
  have hfound : ∀ unit unit', Option.Rel (Token.Alike f) unit unit' →
      Sim f (Option.Rel (Expression.Alike f)) (found unit) (found unit') := by
    intro unit unit' h
    cases h with
    | none => exact Sim.pure (.some rfl)
    | some ht => cases ht; exact Sim.pure (.some rfl)
  exact Sim.ite (Sim.bind (Sim.pure .none) hfound) (sim_plainWord?.bind hfound)

theorem quiet_typedLiteral? : Operand.Quiet f typedLiteral? := by
  refine Sim.attempt? (sim_builtInType?.bind? (Sim.pure .none) fun _ _ htype => ?_)
  refine (sim_take? deaf_string).withRemarks fun _ _ _ _ ho hremarks => ?_
  cases ho with
  | none => exact Sim.pure .none
  | some ht =>
    cases ht
    exact Sim.pure (.some (.cast ((Expression.Alike.refl _).note hremarks) htype))

theorem sim_qualified (fuel : Nat) (ht : t.Alike f t') :
    Sim f (fun found found' => Alike f found.1 found'.1 ∧ found.2.Alike f found'.2)
      (qualified fuel t) (qualified fuel t') := by
  induction fuel generalizing t t' with
  | zero => exact Sim.pure ⟨.nil, ht⟩
  | succ fuel ih =>
    refine (sim_sign _).seq fun _ => Sim.ite ?_ (Sim.pure ⟨.nil, ht⟩)
    exact sim_anyName?.need?.bind fun _ _ hu => (ih hu).bind fun _ _ h =>
      Sim.pure ⟨.cons ht h.1, h.2⟩

theorem written_eq (h : t.Alike f t') : t.written = t'.written := by
  cases h
  rfl

theorem front_eq (h : Alike f ts ts') :
    ts.flatMap (·.written ++ ['.']) = ts'.flatMap (·.written ++ ['.']) := by
  induction h with
  | nil => rfl
  | cons ht _ ih => rw [List.flatMap_cons, List.flatMap_cons, ih, written_eq ht]

theorem sim_named (hi : Operand.Quiet f inner) (ht : t.Alike f t') :
    Sim f (Expression.Alike f) (named inner t) (named inner t') := by
  refine sim_get.bind fun _ _ hts => ?_
  rw [hts.length_eq]
  refine (sim_qualified _ ht).bind fun found found' h => ?_
  obtain ⟨before, last⟩ := found
  obtain ⟨before', last'⟩ := found'
  obtain ⟨hbefore, hlast⟩ := h
  have hempty : before.isEmpty = before'.isEmpty := by cases hbefore <;> rfl
  dsimp only
  rw [front_eq hbefore, hempty]
  cases hlast
  refine (sim_sees (deaf_isSign _)).seq fun _ => Sim.ite ?_ (Sim.pure rfl)
  refine (Sim.enclosed hi).bind fun _ _ hitems => Sim.ite (Sim.pure (.call _ hitems)) ?_
  refine Sim.ite (Sim.pure ?_) (Sim.pure (.call _ hitems))
  rw [Expression.Alike, hush_callOf, hush_callOf, Expression.hushAll_eq_of_alike hitems]

theorem sim_branches (hi : Operand.Quiet f inner) (fuel : Nat) :
    Sim f (List.Forall₂ (Expression.Alike f)) (branches inner fuel) (branches inner fuel) := by
  induction fuel with
  | zero => exact Sim.failure
  | succ fuel ih =>
    refine (sim_word _).seq fun _ => Sim.ite ?_ ?_
    · refine (Sim.need? hi).bind fun _ _ hcondition => (sim_word _).need.seq fun _ => ?_
      refine (Sim.need? hi).bind fun _ _ hvalue => ih.bind fun _ _ hrest => Sim.pure ?_
      exact .cons rfl (.cons hcondition (.cons rfl (.cons hvalue hrest)))
    · have hend : ∀ es es', List.Forall₂ (Expression.Alike f) es es' →
          Sim f (List.Forall₂ (Expression.Alike f))
            (do need (word "END"); return es ++ [.verbatim "END".toList])
            (do need (word "END"); return es' ++ [.verbatim "END".toList]) := fun _ _ h =>
        (sim_word _).need.seq fun _ => Sim.pure (List.rel_append h (.cons rfl .nil))
      refine (sim_word _).seq fun _ => Sim.ite ?_ ((Sim.pure .nil).bind hend)
      exact (Sim.need? hi).bind fun _ _ h => (Sim.pure (.cons rfl (.cons h .nil))).bind hend

theorem sim_case (hi : Operand.Quiet f inner) : Sim f (Expression.Alike f) (case inner) (case inner) := by
  have hcase : ∀ es es', List.Forall₂ (Expression.Alike f) es es' → Sim f (Expression.Alike f)
      (do return .phrase (.verbatim "CASE".toList :: es ++ (← branches inner (← get).length)))
      (do return .phrase (.verbatim "CASE".toList :: es' ++ (← branches inner (← get).length))) := by
    intro es es' h
    refine sim_get.bind fun _ _ hts => ?_
    rw [hts.length_eq]
    exact (sim_branches hi _).bind fun _ _ hrest =>
      Sim.pure (.phrase (List.rel_append (.cons (.refl _) h) hrest))
  refine (sim_sees (deaf_isWord _)).seq fun _ => Sim.ite ((Sim.pure .nil).bind hcase) ?_
  exact (Sim.need? hi).bind fun _ _ h => (Sim.pure (.cons h .nil)).bind hcase

theorem sim_opens (k : String) : Sim f Eq (opens k) (opens k) := by
  refine sim_get.bind fun ts ts' hts => ?_
  cases hts with
  | nil => exact Sim.pure rfl
  | cons ht hts =>
    cases hts with
    | nil => exact Sim.pure rfl
    | cons hp hts =>
      cases ht
      cases hp
      exact Sim.ite (Sim.set hts (Sim.pure rfl)) (Sim.pure rfl)

theorem alike_substringOf {es es' : List Expression} (h : List.Forall₂ (Expression.Alike f) es es') :
    (substringOf es).Alike f (substringOf es') := by
  rw [Expression.Alike, hush_substringOf, hush_substringOf, Expression.hushAll_eq_of_alike h]

theorem head?_isSign (h : Alike f ts ts') (s : String) :
    ts.head?.any (·.isSign s) = ts'.head?.any (·.isSign s) := by
  cases h with
  | nil => rfl
  | cons ht _ => exact deaf_isSign s ht

theorem quiet_wordly? (hi : Operand.Quiet f inner) : Operand.Quiet f (wordly? inner) := by
  refine Sim.bind? quiet_interval? ?_ fun _ _ h => Sim.pure (.some h)
  refine Sim.bind? quiet_typedLiteral? ?_ fun _ _ h => Sim.pure (.some h)
  refine (sim_opens _).seq fun _ => Sim.ite ?_ ?_
  · refine (Sim.need? hi).bind fun _ _ he => (sim_word _).need.seq fun _ => ?_
    refine (sim_typeName? _).need?.bind fun _ _ htype => (sim_sign _).need.seq fun _ => ?_
    exact Sim.pure (.some (he.cast htype))
  refine (sim_opens _).seq fun _ => Sim.ite ?_ ?_
  · refine (sim_take? (by rintro _ _ _ ⟨⟩; rfl)).need?.bind fun _ _ ht => ?_
    cases ht
    refine (sim_word _).need.seq fun _ => (Sim.need? hi).bind fun _ _ he => ?_
    refine (sim_sign _).need.seq fun _ => Sim.pure (.some ?_)
    exact .call _ (.cons (.phrase (.cons rfl (.cons rfl (.cons he .nil)))) .nil)
  refine (sim_opens _).seq fun _ => Sim.ite ?_ ?_
  · refine sim_get.bind fun _ _ hts => ?_
    rw [hts.length_eq]
    refine (Sim.listed hi _).bind fun es es' hes => (sim_word _).seq fun _ => ?_
    have hsome : Sim f (Option.Rel (Expression.Alike f)) (some <$> need? inner) (some <$> need? inner) :=
      (Sim.need? hi).map fun _ _ h => .some h
    extract_lets start start'
    have hstart : ∀ o o', Option.Rel (Expression.Alike f) o o' →
        Sim f (Option.Rel (Expression.Alike f)) (start o) (start' o') := by
      intro o o' ho
      refine (sim_word _).seq fun _ => ?_
      extract_lets measure measure'
      have hmeasure : ∀ l l', Option.Rel (Expression.Alike f) l l' →
          Sim f (Option.Rel (Expression.Alike f)) (measure l) (measure' l') := by
        intro l l' hl
        refine (sim_sign _).need.seq fun _ => Sim.pure (.some (alike_substringOf ?_))
        refine List.rel_append (List.rel_append hes (toList_forall₂ ?_)) (toList_forall₂ hl)
        rw [isSome_eq hl]
        split
        · cases ho with
          | none => exact .some rfl
          | some h => exact .some h
        · exact ho
      exact Sim.ite (hsome.bind hmeasure) ((Sim.pure .none).bind hmeasure)
    exact Sim.ite (hsome.bind hstart) ((Sim.pure .none).bind hstart)
  refine (sim_word _).seq fun _ => Sim.ite ?_ ?_
  · exact (sim_case hi).bind fun _ _ h => Sim.pure (.some h)
  refine sim_get.bind fun ts ts' hts => ?_
  cases hts with
  | nil => exact Sim.pure .none
  | cons ht hts =>
    rename_i t t' ts ts'
    have hvalue : (fun entry : String × String => t.isWord entry.1 && !ts'.head?.any (·.isSign "(")) =
        fun entry => t'.isWord entry.1 && !ts'.head?.any (·.isSign "(") :=
      funext fun entry => by rw [deaf_isWord _ ht]
    dsimp only
    rw [head?_isSign hts, head?_isSign hts, hts.length_eq, hvalue, deaf_isWord _ ht, deaf_isName ht]
    split
    · exact Sim.set hts (Sim.pure (.some (.refl _)))
    · refine Sim.ite ?_ (Sim.ite ?_ (Sim.pure .none))
      · exact Sim.set (Alike.drop hts 1) ((Sim.listed hi _).bind fun _ _ hes =>
          (sim_sign _).need.seq fun _ => Sim.pure (.some (.array hes)))
      · exact Sim.set hts ((sim_named hi ht).bind fun _ _ h => Sim.pure (.some h))

theorem strings_alike (h : Alike f ts ts') :
    (strings ts).1 = (strings ts').1 ∧ Alike f (strings ts).2 (strings ts').2 := by
  induction h with
  | nil => exact ⟨rfl, .nil⟩
  | cons ht hts ih =>
    cases ht with
    | mk hletters hremarks =>
      unfold strings
      dsimp only
      split
      · exact ⟨congrArg (_ :: ·) ih.1, ih.2⟩
      · exact ⟨rfl, .cons (.mk hletters hremarks) hts⟩

theorem literal?_eq (h : t.Alike f t') : literal? t = literal? t' := by
  cases h
  rfl

theorem quiet_primary? (hi : Operand.Quiet f inner) : Operand.Quiet f (primary? inner) := by
  refine sim_get.bind fun ts ts' hts => ?_
  cases hts with
  | nil => exact Sim.pure .none
  | @cons t t' ts ts' ht hts =>
    dsimp only
    rw [literal?_eq ht, deaf_isSign _ ht, deaf_isSign _ ht, deaf_isSign _ ht, hts.length_eq]
    split
    · next text _ =>
      have hkind := deaf_string ht
      dsimp only at hkind
      rw [hkind]
      generalize hfound : (if t'.kind == .string then strings ts else ([], ts)) = found,
        hfound' : (if t'.kind == .string then strings ts' else ([], ts')) = found'
      have halike : found.1 = found'.1 ∧ Alike f found.2 found'.2 := by
        rw [← hfound, ← hfound']
        split
        · exact strings_alike hts
        · exact ⟨rfl, hts⟩
      obtain ⟨texts, us⟩ := found
      obtain ⟨texts', us'⟩ := found'
      obtain ⟨rfl, hleft⟩ := halike
      cases texts with
      | nil => exact Sim.set hleft (Sim.pure (.some (.refl _)))
      | cons _ _ => exact Sim.set hleft (Sim.pure (.some (.refl _)))
    · refine Sim.ite ?_ (Sim.ite ?_ (Sim.ite ?_ (quiet_wordly? hi)))
      · cases hts with
        | nil => exact Sim.pure .none
        | cons hn hts =>
          cases hn
          exact Sim.ite (Sim.set hts (Sim.pure (.some (.refl _)))) (Sim.pure .none)
      · exact Sim.set hts (Sim.pure (.some (.refl _)))
      · exact Sim.set hts ((Sim.listed hi _).bind fun _ _ hes =>
          (sim_sign _).need.seq fun _ => Sim.pure (.some (.group hes)))

theorem sim_suffixes (hi : Operand.Quiet f inner) (fuel : Nat) (he : e.Alike f e') :
    Sim f (Expression.Alike f) (suffixes inner e fuel) (suffixes inner e' fuel) := by
  induction fuel generalizing e e' with
  | zero => exact Sim.pure he
  | succ fuel ih =>
    refine (sim_sign _).seq fun _ => Sim.ite ?_ ((sim_sign _).seq fun _ => Sim.ite ?_ ?_)
    · refine (sim_typeName? _).need?.withRemarks fun type type' remarks remarks' htype hremarks => ?_
      dsimp only
      rw [isEmpty_of_hushed htype.remarks]
      refine ih ((he.cast htype).note ?_)
      split
      · exact hremarks
      · rfl
    · refine Sim.withRemarks (R := List.Forall₂ (Expression.Alike f)) ?_
        fun _ _ _ _ hes hremarks => ih ((he.index hes).note hremarks)
      refine sim_get.bind fun _ _ hts => ?_
      rw [hts.length_eq]
      exact (Sim.listed hi _).bind fun _ _ hes => (sim_sign _).need.seq fun _ => Sim.pure hes
    · refine (quiet_signOperator _).bind (Sim.pure he) fun text _ _ hremarks => ?_
      exact (Sim.need? (quiet_primary? hi)).withRemarks fun _ _ _ _ hf hafter =>
        ih (he.binary text hremarks (hf.note hafter))

theorem quiet_unary (fuel : Nat) : Operand.Quiet f (unary fuel) := by
  induction fuel with
  | zero => exact Sim.failure
  | succ fuel ih =>
    refine (sim_sign _).seq fun _ => Sim.ite ih ((sim_sign _).seq fun _ => Sim.ite ?_ ?_)
    · exact (Sim.need? ih).bind fun _ _ h => Sim.pure (.some (h.lead _))
    refine (sim_word _).seq fun _ => Sim.ite ?_ ?_
    · exact (Sim.need? ((ih.disjunction ih).equality ih)).bind fun _ _ h =>
        Sim.pure (.some (h.lead _))
    · refine (quiet_primary? (ih.disjunction ih)).withRemarks fun _ _ _ _ ho hremarks => ?_
      cases ho with
      | none => exact Sim.pure .none
      | some h =>
        refine sim_get.bind fun _ _ hts => ?_
        rw [hts.length_eq]
        exact (sim_suffixes (ih.disjunction ih) _ (h.note hremarks)).map fun _ _ h => .some h

theorem quiet_expression? : Operand.Quiet f expression? := by
  refine sim_get.bind fun _ _ hts => ?_
  rw [hts.length_eq]
  exact (quiet_unary _).disjunction (quiet_unary _)

theorem quiet_value? : Operand.Quiet f value? := by
  refine sim_get.bind fun _ _ hts => ?_
  rw [hts.length_eq]
  exact (quiet_unary _).bitwise

end Reading
end SchemaDiagram.Postgres
