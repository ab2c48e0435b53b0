import SchemaDiagram.Postgres.Script
import SchemaDiagram.Proofs.Postgres.Remarks.Expressions

/-!
Statements pass over what comments say: scripts whose tokens are alike are both rejected, or they
declare the same tables and keys, up to the comments in default values and in types.
-/
namespace SchemaDiagram.Postgres

/-- Two constraints that differ at most in the comments of a default value. -/
inductive ColumnConstraint.Alike (f : Text → Text) : ColumnConstraint → ColumnConstraint → Prop where
  | same (c : ColumnConstraint) : Alike f c c
  | defaultValue {value value' : Expression} (h : value.Alike f value') :
    Alike f (.defaultValue value) (.defaultValue value')

/-- Two elements that differ at most in the comments of types and default values. -/
inductive Element.Alike (f : Text → Text) : Element → Element → Prop where
  | column (name : Text) {type type' : Option TypeName} {cs cs' : List ColumnConstraint}
    (htype : Option.Rel (TypeName.Alike f) type type')
    (hconstraints : List.Forall₂ (ColumnConstraint.Alike f) cs cs') :
    Alike f (.column name type cs) (.column name type' cs')
  | constraint (c : TableConstraint) : Alike f (.constraint c) (.constraint c)
  | named (name : Text) (cs : List TableConstraint) : Alike f (.named name cs) (.named name cs)

/-- Two statements that differ at most in the comments of types and default values. -/
inductive Statement.Alike (f : Text → Text) : Statement → Statement → Prop where
  | createTable (name : Text) {es es' : List Element} (h : List.Forall₂ (Element.Alike f) es es') :
    Alike f (.createTable name es) (.createTable name es')
  | alterTable (name : Text) {es es' : List Element} (h : List.Forall₂ (Element.Alike f) es es') :
    Alike f (.alterTable name es) (.alterTable name es')
  | other : Alike f .other .other

namespace Reading

variable {α γ δ : Type} {R : α → α → Prop} {S : γ → δ → Prop} {f : Text → Text} {k : Reading γ}
  {k' : Reading δ} {ts ts' : List Token} {t t' : Token}

theorem text_eq (h : t.Alike f t') : t.text = t'.text := by
  cases h
  rfl

theorem sim_last {part : Reading (Option Token)} (hp : Sim f (Option.Rel (Token.Alike f)) part part)
    (fuel : Nat) (ht : t.Alike f t') :
    Sim f Eq (tableName.last part t fuel) (tableName.last part t' fuel) := by
  induction fuel generalizing t t' with
  | zero => exact Sim.pure (text_eq ht)
  | succ fuel ih =>
    exact (sim_sign _).seq fun _ => Sim.ite (hp.need?.bind fun _ _ hu => ih hu) (Sim.pure (text_eq ht))

theorem sim_tableName : Sim f Eq tableName tableName := by
  have hpart : Sim f (Option.Rel (Token.Alike f)) (take? fun t => isName t || t.kind == .string)
      (take? fun t => isName t || t.kind == .string) := sim_take? (by rintro _ _ _ ⟨⟩; rfl)
  refine hpart.need?.bind fun _ _ ht => sim_get.bind fun _ _ hts => ?_
  rw [hts.length_eq]
  exact sim_last hpart _ ht

theorem namesIn_eq (h : Alike f ts ts') (depth : Nat) : namesIn depth ts = namesIn depth ts' := by
  induction h generalizing depth with
  | nil => rfl
  | @cons t t' ts ts' ht hts ih =>
    have hvalue : bareValues.any (fun entry => t.isWord entry.1) =
        bareValues.any fun entry => t'.isWord entry.1 :=
      congrArg bareValues.any (funext fun entry => deaf_isWord entry.1 ht)
    unfold namesIn
    rw [deaf_isSign _ ht, deaf_isSign _ ht, deaf_isName ht, hvalue, head?_isSign hts, text_eq ht]
    simp only [ih]

theorem subject_eq (function : Text) (h : Alike f ts ts') : subject function ts = subject function ts' := by
  rw [subject, subject, namesIn_eq h]

theorem sim_keyColumn? {test : Token → Bool} (h : Deaf test) :
    Sim f (Option.Rel Eq) (keyColumn? test) (keyColumn? test) := by
  have hsubject (function : Text) : Sim f (Option.Rel Eq) (do return some (subject function (← group)))
      (do return some (subject function (← group))) :=
    sim_group.bind fun _ _ hinner => Sim.pure (.some (subject_eq _ hinner))
  refine (sim_take? h).bind? ?_ fun t t' ht => ?_
  · exact (sim_sign _).seq fun _ => Sim.ite (hsubject _) (Sim.pure .none)
  · dsimp only
    rw [text_eq ht]
    exact (sim_sign _).seq fun _ => Sim.ite (hsubject _) (Sim.pure (.some rfl))

theorem sim_typedColumn? : Sim f (Option.Rel Eq) typedColumn? typedColumn? := by
  refine (sim_keyColumn? deaf_isAnyName).bind? (Sim.pure .none) fun _ _ h => ?_
  subst h
  exact (sim_typeName? _).bind fun _ _ _ => Sim.pure (.some rfl)

theorem sim_action : Sim f Eq action action :=
  (sim_words _).seq fun _ => Sim.ite (Sim.pure rfl) <|
    (sim_words _).seq fun _ => Sim.ite (Sim.pure rfl) <|
      (sim_words _).seq fun _ => Sim.ite (Sim.pure rfl) (sim_oneOf _)

theorem sim_keyOption : Sim f Eq keyOption keyOption := by
  refine (sim_word _).seq fun _ => Sim.ite ?_ (sim_get.bind fun ts ts' hts => ?_)
  · exact sim_anyName?.bind fun _ _ _ => sim_action.need.seq fun _ => Sim.pure rfl
  · have hphrase : (startsWith · ts) = (startsWith · ts') := funext fun ws => startsWith_eq ws hts
    rw [hphrase]
    split
    · exact sim_words _
    · exact Sim.pure rfl

theorem Sim.repeated {r : Reading Bool} (h : Sim f Eq r r) (fuel : Nat) :
    Sim f Eq (Reading.repeated r fuel) (Reading.repeated r fuel) := by
  induction fuel with
  | zero => exact Sim.pure rfl
  | succ fuel ih => exact h.seq fun _ => Sim.ite ih (Sim.pure rfl)

/-- Something is there as often on both sides. -/
theorem Sim.repeatedly {r : Reading Bool} {k : Unit → Reading γ} {k' : Unit → Reading δ}
    (h : Sim f Eq r r) (hk : Sim f S (k ()) (k' ())) :
    Sim f S (do k (← Reading.repeated r (← get).length)) (do k' (← Reading.repeated r (← get).length)) :=
  sim_length _ _ fun fuel => (h.repeated fuel).seq fun _ => hk

theorem sim_keyOptions : Sim f Eq keyOptions keyOptions := sim_length _ _ sim_keyOption.repeated

/-- What may stand before the rest of a reading. -/
theorem Sim.before {c : Prop} [Decidable c] {r k : Reading γ} {r' k' : Reading δ}
    (hr : Sim f S k k' → Sim f S r r') (hk : Sim f S k k') :
    Sim f S (if c then r else k) (if c then r' else k') :=
  Sim.ite (hr hk) hk

theorem Sim.when {c : Prop} [Decidable c] {r : Reading α} {k : Reading γ} {k' : Reading δ}
    (hr : Sim f R r r) (hk : Sim f S k k') :
    Sim f S (if c then do let _ ← r; k else k) (if c then do let _ ← r; k' else k') :=
  Sim.before (hr.bind fun _ _ _ => ·) hk

theorem Sim.columns {item : Reading (Option Text)} (h : Sim f (Option.Rel Eq) item item) :
    Sim f Eq (Reading.enclosed item) (Reading.enclosed item) :=
  h.enclosed.mono fun _ _ h => by rwa [List.forall₂_eq_eq_eq] at h

/-- Columns in parentheses, where these are there. -/
theorem Sim.columns? {b : Bool} {item : Reading (Option Text)} {k : List Text → Reading γ}
    {k' : List Text → Reading δ} (h : Sim f (Option.Rel Eq) item item)
    (hk : ∀ columns, Sim f S (k columns) (k' columns)) :
    Sim f S (if b then Reading.enclosed item >>= k else Pure.pure [] >>= k)
      (if b then Reading.enclosed item >>= k' else Pure.pure [] >>= k') :=
  Sim.ite (h.columns.seq hk) (hk [])

theorem sim_target : Sim f Eq target target := by
  refine (sim_word _).seq fun _ => sim_tableName.seq fun _ => (sim_sign _).seq fun _ => ?_
  refine (sim_sees (deaf_isSign _)).seq fun _ => Sim.columns? sim_typedColumn? fun columns => ?_
  exact sim_keyOptions.seq fun _ => Sim.pure rfl

theorem sim_inParentheses : Sim f S k k' →
    Sim f S (do need (sign "("); let _ ← group; k) (do need (sign "("); let _ ← group; k') := fun hk =>
  (sim_sign _).need.seq fun _ => sim_group.bind fun _ _ _ => hk

theorem sim_indexOptions : Sim f Eq indexOptions indexOptions := by
  refine (sim_word _).seq fun _ => Sim.when sim_anyName? ?_
  refine (sim_sign _).seq fun _ => Sim.when sim_group ?_
  refine (sim_word _).seq fun _ => Sim.when sim_anyName?.enclosed ?_
  refine (sim_word _).seq fun _ => Sim.before sim_inParentheses ?_
  refine (sim_words _).seq fun _ => Sim.when sim_anyName? ?_
  exact (sim_word _).seq fun _ => Sim.when quiet_expression?.need? (Sim.pure rfl)

theorem sim_identityOptions : Sim f Eq identityOptions identityOptions := by
  refine (sim_words _).seq fun _ => Sim.when quiet_value?.need? ?_
  refine (sim_words _).seq fun _ => Sim.when quiet_value?.need? ?_
  refine (sim_word _).seq fun _ => Sim.when quiet_value?.need? ?_
  refine (sim_word _).seq fun _ => Sim.when quiet_value?.need? ?_
  refine (sim_word _).seq fun _ => Sim.when (sim_words _) ?_
  refine (sim_sees (deaf_kind _)).seq fun _ => Sim.ite ?_ (Sim.pure rfl)
  exact sim_length _ _ fun _ => (quiet_value?.listed _).bind fun _ _ _ => Sim.pure rfl

theorem sim_generated : Sim f Eq generated generated := by
  have hstored : Sim f Eq (do let _ ← word "STORED"; return ()) (do let _ ← word "STORED"; return ()) :=
    (sim_word _).seq fun _ => Sim.pure rfl
  have hrest : Sim f Eq
      (do
        let _ ← word "AS"
        let identity ← word "IDENTITY"
        if ← sign "(" then
          if identity then identityOptions else let _ ← expression?
          need (sign ")")
        let _ ← word "STORED")
      (do
        let _ ← word "AS"
        let identity ← word "IDENTITY"
        if ← sign "(" then
          if identity then identityOptions else let _ ← expression?
          need (sign ")")
        let _ ← word "STORED") := by
    refine (sim_word _).seq fun _ => (sim_word _).seq fun _ => (sim_sign _).seq fun _ => ?_
    have hclose := (sim_sign ")").need.seq fun _ => hstored
    refine Sim.ite (Sim.ite (sim_identityOptions.seq fun _ => hclose) ?_) hstored
    exact quiet_expression?.bind fun _ _ _ => hclose
  refine (sim_words _).seq fun _ => Sim.ite ?_ ?_
  · exact (sim_words _).seq fun _ => hrest
  · exact (sim_word _).seq fun _ => hrest

theorem sim_unique : Sim f Eq unique unique := by
  refine (sim_oneOf _).seq fun _ => (sim_words _).seq fun _ => ?_
  refine (sim_sees (deaf_isSign _)).seq fun _ => Sim.columns? sim_typedColumn? fun columns => ?_
  refine (sim_word _).seq fun _ => Sim.when sim_anyName? ?_
  refine (sim_words _).seq fun _ => Sim.before (fun hk => (sim_oneOf _).need.seq fun _ => hk) ?_
  exact sim_keyOptions.seq fun _ => Sim.pure rfl

theorem sim_primaryKey : Sim f Eq primaryKey primaryKey := by
  refine (sim_oneOf _).seq fun _ => (sim_sees (deaf_isSign _)).seq fun _ => Sim.ite ?_ ?_
  · refine (sim_keyColumn? deaf_isName).columns.seq fun columns => ?_
    exact sim_indexOptions.seq fun _ => sim_keyOptions.seq fun _ => Sim.pure rfl
  · exact sim_keyOptions.seq fun _ => Sim.pure rfl

theorem sim_reaction : Sim f Eq reaction reaction := by
  refine (sim_word _).seq fun _ => Sim.ite ((sim_oneOf _).need.seq fun _ => ?_) (Sim.pure rfl)
  refine (sim_words _).seq fun _ => Sim.before (fun hk => ?_) (Sim.pure rfl)
  refine (sim_word _).seq fun _ => Sim.ite ((sim_oneOf _).seq fun _ => hk) ?_
  exact (sim_modify_drop 1).seq fun _ => hk

theorem texts_eq (h : Alike f ts ts') : ts.map (·.text) = ts'.map (·.text) := by
  induction h with
  | nil => rfl
  | cons ht _ ih => rw [List.map_cons, List.map_cons, ih, text_eq ht]

theorem sim_foreignKey : Sim f Eq foreignKey foreignKey := by
  refine (sim_sees (deaf_isWord _)).seq fun _ => ?_
  extract_lets withColumns
  have hcolumns : ∀ ts ts', Alike f ts ts' → Sim f Eq (withColumns ts) (withColumns ts') := by
    intro ts ts' hts
    have htail (target : Option Target) : Sim f Eq
        (do
          repeated reaction (← get).length
          keyOptions
          return TableConstraint.foreignKey (ts.map (·.text)) target)
        (do
          repeated reaction (← get).length
          keyOptions
          return TableConstraint.foreignKey (ts'.map (·.text)) target) := by
      rw [texts_eq hts]
      exact sim_reaction.repeatedly (sim_keyOptions.seq fun _ => Sim.pure rfl)
    refine (sim_word _).seq fun _ => Sim.ite ?_ (htail none)
    exact (sim_target.map (S := Eq) fun _ _ h => congrArg some h).seq htail
  exact Sim.ite (hcolumns _ _ .nil) (sim_anyName?.enclosed.bind hcolumns)

theorem sim_check : Sim f Eq check check :=
  sim_inParentheses ((sim_word _).seq fun _ => Sim.pure rfl)

theorem sim_likeTable : Sim f Eq likeTable likeTable := by
  refine sim_target.seq fun _ => sim_length _ _ fun fuel => Sim.repeated ?_ fuel
  refine (sim_oneOf _).seq fun _ => Sim.ite ?_ (Sim.pure rfl)
  exact sim_anyName?.need?.bind fun _ _ _ => Sim.pure rfl

theorem sim_keyword (k : String) : Sim f Eq (keyword k) (keyword k) := sim_taken (deaf_spells k)

/-- A branch that finds a constraint, among other branches. -/
theorem Sim.found {c : Prop} [Decidable c] {r : Reading α} {k k' : Reading Bool} (hr : Sim f R r r)
    (hk : Sim f Eq k k') :
    Sim f Eq (if c then do let _ ← r; return true else k) (if c then do let _ ← r; return true else k') :=
  Sim.ite (hr.bind fun _ _ _ => Sim.pure rfl) hk

theorem sim_plainConstraint : Sim f Eq plainConstraint plainConstraint := by
  have hgroup : Sim f Eq (do if ← sign "(" then let _ ← group; return true else return true)
      (do if ← sign "(" then let _ ← group; return true else return true) :=
    (sim_sign _).seq fun _ => Sim.when sim_group (Sim.pure rfl)
  refine (sim_keyword _).seq fun _ => Sim.found sim_check ?_
  refine (sim_keyword _).seq fun _ => Sim.found sim_tableName ?_
  refine (sim_keyword _).seq fun _ => Sim.found (sim_take? (deaf_kind _)).need? ?_
  refine (sim_keyword _).seq fun _ => Sim.found sim_generated ?_
  refine (sim_keyword _).seq fun _ => (sim_keyword _).seq fun _ => (sim_keyword _).seq fun _ => ?_
  refine Sim.ite hgroup ?_
  refine (sim_keyword _).seq fun _ => Sim.ite ((sim_word _).seq fun _ => Sim.ite ?_ ?_) ?_
  · exact sim_name?.need?.bind fun _ _ _ => hgroup
  · exact sim_anyName?.need?.bind fun _ _ _ => Sim.pure rfl
  refine (sim_words _).seq fun _ => Sim.found sim_foreignKey ?_
  refine (sim_words _).seq fun _ => Sim.found sim_anyName?.need? ?_
  refine (sim_keyword _).seq fun _ => Sim.found sim_likeTable ?_
  exact (sim_keyword _).seq fun _ => Sim.ite (sim_inParentheses (Sim.pure rfl)) (Sim.pure rfl)

theorem sim_columnConstraint? :
    Sim f (Option.Rel (ColumnConstraint.Alike f)) columnConstraint? columnConstraint? := by
  have hsame (c : ColumnConstraint) : Sim f (Option.Rel (ColumnConstraint.Alike f))
      (Pure.pure (some c)) (Pure.pure (some c)) := Sim.pure (.some (.same c))
  refine (sim_word _).seq fun named => Sim.when sim_anyName?.need? ?_
  refine (sim_words _).seq fun _ => Sim.ite (hsame _) ?_
  refine (sim_keyword _).seq fun _ => Sim.ite (hsame _) ?_
  refine (sim_words _).seq fun _ => Sim.ite (sim_primaryKey.seq fun _ => hsame _) ?_
  refine (sim_keyword _).seq fun _ => Sim.ite (sim_unique.seq fun _ => hsame _) ?_
  refine (sim_keyword _).seq fun _ => Sim.ite ?_ ?_
  · exact quiet_value?.need?.bind fun _ _ h => Sim.pure (.some (.defaultValue h))
  refine (sim_keyword _).seq fun _ => Sim.ite (sim_target.seq fun _ => hsame _) ?_
  refine sim_plainConstraint.seq fun _ => Sim.ite (hsame _) ?_
  exact Sim.ite Sim.failure (Sim.pure .none)

theorem Sim.many {r : Reading (Option α)} (h : Sim f (Option.Rel R) r r) (fuel : Nat) :
    Sim f (List.Forall₂ R) (Reading.many r fuel) (Reading.many r fuel) := by
  induction fuel with
  | zero => exact Sim.pure .nil
  | succ fuel ih =>
    exact h.bind? (Sim.pure .nil) fun _ _ ha => ih.bind fun _ _ hrest => Sim.pure (.cons ha hrest)

theorem sim_computed (typed : Bool) : Sim f Eq (computed typed) (computed typed) := by
  refine sim_get.bind fun ts ts' hts => ?_
  cases hts with
  | nil => exact Sim.pure rfl
  | cons ht hts =>
    cases hts with
    | nil => exact Sim.pure rfl
    | cons hp hts =>
      dsimp only
      rw [deaf_isWord _ ht, deaf_isSign _ hp]
      refine Sim.ite ((sim_modify_drop 1).seq fun _ => ?_) (Sim.pure rfl)
      exact quiet_expression?.need?.bind fun _ _ _ => (sim_oneOf _).seq fun _ => Sim.pure rfl

theorem sim_columnOf (name : Text) : Sim f (Element.Alike f) (columnOf name) (columnOf name) := by
  refine (sim_typeName? true).bind fun type type' htype => ?_
  rw [isSome_eq htype]
  refine (sim_computed _).seq fun _ => sim_get.bind fun ts ts' hts => ?_
  rw [hts.length_eq]
  refine (sim_columnConstraint?.many _).bind fun cs cs' hcs => ?_
  have hempty : cs.isEmpty = cs'.isEmpty := by cases hcs <;> rfl
  have hnone : type.isNone = type'.isNone := by cases htype <;> rfl
  rw [hempty, hnone]
  exact Sim.ite (Sim.pure (.constraint _)) (Sim.pure (.column name htype hcs))

theorem sim_tableConstraint? : Sim f (Option.Rel Eq) tableConstraint? tableConstraint? := by
  have hsome (c : TableConstraint) : Sim f (Option.Rel Eq) (Pure.pure (some c)) (Pure.pure (some c)) :=
    Sim.pure (.some rfl)
  refine (sim_words _).seq fun _ => Sim.ite (sim_primaryKey.seq fun _ => hsome _) ?_
  refine (sim_words _).seq fun _ => Sim.ite (sim_foreignKey.seq fun _ => hsome _) ?_
  refine (sim_word _).seq fun _ => Sim.ite (sim_unique.seq fun _ => hsome _) ?_
  refine (sim_word _).seq fun _ => Sim.ite (sim_check.seq fun _ => hsome _) ?_
  refine (sim_word _).seq fun _ => Sim.ite (sim_indexOptions.seq fun _ => hsome _) ?_
  exact (sim_word _).seq fun _ => Sim.ite (sim_likeTable.seq fun _ => hsome _) (Sim.pure .none)

theorem sim_namedConstraint? : Sim f (Option.Rel Eq) namedConstraint? namedConstraint? := by
  refine sim_tableConstraint?.bind? ?_ fun _ _ h => Sim.pure (.some h)
  refine sim_columnConstraint?.bind fun _ _ ho => Sim.pure ?_
  cases ho with
  | none => exact .none
  | some _ => exact .some rfl

theorem sim_constraint? : Sim f (Option.Rel (Element.Alike f)) constraint? constraint? := by
  refine (sim_word _).seq fun _ => Sim.ite ?_ ?_
  · refine sim_anyName?.need?.bind fun t t' ht => sim_get.bind fun ts ts' hts => ?_
    rw [hts.length_eq]
    refine (sim_namedConstraint?.many _).bind fun cs cs' hcs => ?_
    rw [List.forall₂_eq_eq_eq] at hcs
    subst hcs
    rw [text_eq ht]
    cases cs with
    | nil => exact Sim.failure
    | cons c cs => exact Sim.pure (.some (.named _ _))
  · refine sim_tableConstraint?.bind fun _ _ ho => Sim.pure ?_
    cases ho with
    | none => exact .none
    | some h => exact h ▸ .some (.constraint _)

theorem sim_column? : Sim f (Option.Rel (Element.Alike f)) column? column? := by
  have hcolumn (name : Text) : Sim f (Option.Rel (Element.Alike f))
      (do return some (← columnOf name)) (do return some (← columnOf name)) :=
    (sim_columnOf name).bind fun _ _ h => Sim.pure (.some h)
  refine (sim_take? deaf_isAnyName).bind? ?_ fun t t' ht => ?_
  · exact (sim_sign _).seq fun _ =>
      Sim.ite (sim_group.bind fun _ _ _ => hcolumn []) (Sim.pure .none)
  · dsimp only
    rw [text_eq ht]
    exact (sim_sign _).seq fun _ => Sim.when sim_group (hcolumn _)

theorem sim_element? : Sim f (Option.Rel (Element.Alike f)) element? element? :=
  sim_constraint?.bind? sim_column? fun _ _ h => Sim.pure (.some h)

theorem sim_skipAll : Sim f Eq skipAll skipAll := fun _ _ _ => .some ⟨rfl, .nil⟩

theorem isBalanced_eq (h : Alike f ts ts') (depth : Nat) : isBalanced depth ts = isBalanced depth ts' := by
  induction h generalizing depth with
  | nil => rfl
  | cons ht _ ih =>
    unfold isBalanced
    rw [deaf_isSign _ ht, deaf_isSign _ ht]
    simp only [ih]

theorem sim_skipBalanced : Sim f Eq skipBalanced skipBalanced :=
  sim_get.bind fun _ _ hts => isBalanced_eq hts 0 ▸ Sim.ite sim_skipAll Sim.failure

theorem sim_optionValue : Sim f Eq optionValue optionValue := by
  refine (sim_sign _).seq fun _ => ?_
  exact (sim_take? (by rintro _ _ _ ⟨⟩; rfl)).need?.bind fun _ _ _ => Sim.pure rfl

theorem sim_assignment : Sim f Eq assignment assignment := by
  refine Sim.bind (R := Option.Rel Eq) (Sim.attempt? ?_) fun _ _ ho => Sim.pure (isSome_eq ho)
  refine (sim_take? deaf_isName).need?.bind fun _ _ _ => (sim_sign _).need.seq fun _ => ?_
  exact quiet_value?.need?.bind fun _ _ _ => Sim.pure (.some (.refl ()))

theorem sim_tableOption : Sim f Eq tableOption tableOption := by
  have htrue : Sim f Eq (Pure.pure true : Reading Bool) (Pure.pure true) := Sim.pure rfl
  refine (sim_oneOf _).seq fun _ => Sim.found sim_optionValue ?_
  refine (sim_words _).seq fun _ => Sim.found sim_optionValue ?_
  refine (sim_words _).seq fun _ => Sim.found sim_optionValue ?_
  refine (sim_words _).seq fun _ => Sim.found sim_optionValue ?_
  refine (sim_words _).seq fun _ => Sim.found sim_optionValue ?_
  refine (sim_word _).seq fun _ => Sim.ite (sim_inParentheses htrue) ?_
  refine (sim_opens _).seq fun _ => Sim.found sim_group ?_
  refine (sim_words _).seq fun _ => Sim.ite ?_ ?_
  · exact sim_name?.bind fun _ _ _ => (sim_sign _).seq fun _ => Sim.when sim_group htrue
  refine (sim_word _).seq fun _ => Sim.found sim_anyName?.need? ?_
  refine (sim_word _).seq fun _ => Sim.ite htrue ?_
  refine (sim_word _).seq fun _ => Sim.ite ?_ sim_assignment
  refine (sim_words _).seq fun _ => (sim_words _).seq fun _ => ?_
  exact Sim.when sim_anyName?.need? htrue

theorem sim_ifNotExists : Sim f Eq ifNotExists ifNotExists := by
  refine (sim_word _).seq fun _ => Sim.ite ?_ (Sim.pure rfl)
  refine (sim_word _).seq fun _ => Sim.ite ?_ (Sim.pure rfl)
  exact (sim_word _).seq fun _ => Sim.pure rfl

theorem sim_elements? :
    Sim f (Option.Rel (List.Forall₂ (Element.Alike f))) elements? elements? := by
  refine sim_get.bind fun ts ts' hts => ?_
  cases hts with
  | nil => exact Sim.pure .none
  | cons hp hts =>
    cases hts with
    | nil =>
      dsimp only
      rw [deaf_isSign _ hp]
      exact Sim.ite Sim.failure (Sim.pure .none)
    | cons ht hts =>
      dsimp only
      rw [deaf_isSign _ hp, deaf_isSign _ ht, deaf_isWord _ ht, deaf_isWord _ ht]
      refine Sim.ite (Sim.ite Sim.failure (Sim.ite ?_ ?_)) (Sim.pure .none)
      · exact sim_skipBalanced.seq fun _ => Sim.pure .none
      · exact sim_element?.enclosed.map fun _ _ h => .some h

theorem sim_createTable : Sim f (Statement.Alike f) createTable createTable := by
  refine sim_ifNotExists.seq fun _ => sim_tableName.seq fun name => ?_
  refine sim_elements?.bind fun found found' hfound => sim_tableOption.repeatedly ?_
  extract_lets declared declared'
  have hdeclared : declared.Alike f declared' := by
    cases hfound with
    | none => exact .other
    | some h => exact .createTable name h
  refine sim_get.bind fun ts ts' hts => ?_
  cases hts with
  | nil => exact Sim.pure hdeclared
  | cons ht hts =>
    dsimp only
    rw [deaf_isWord _ ht, deaf_isSign _ ht, deaf_isSign _ ht]
    refine Sim.ite (sim_skipBalanced.seq fun _ => Sim.pure hdeclared) (Sim.ite Sim.failure ?_)
    exact sim_skipAll.seq fun _ => Sim.pure .other

theorem sim_create : Sim f (Statement.Alike f) create create := by
  refine (sim_words _).seq fun _ => (sim_word _).seq fun _ => (sim_oneOf _).repeatedly ?_
  refine (sim_word _).seq fun _ => Sim.ite sim_createTable ?_
  have hother : Sim f (Statement.Alike f) (do skipBalanced; return .other) (do skipBalanced; return .other) :=
    sim_skipBalanced.seq fun _ => Sim.pure .other
  refine (sim_oneOf _).seq fun _ => Sim.ite ?_ (sim_skipAll.seq fun _ => Sim.pure .other)
  refine sim_get.bind fun ts ts' hts => ?_
  cases hts with
  | nil => exact Sim.failure
  | cons _ _ => exact hother

theorem sim_seesConstraint : Sim f Eq seesConstraint seesConstraint := by
  refine sim_get.bind fun ts ts' hts => ?_
  cases hts with
  | nil => exact Sim.pure rfl
  | cons ht hts =>
    refine Sim.pure ?_
    rw [deaf_isWord _ ht, deaf_isWord _ ht, deaf_isWord _ ht, startsWith_eq _ (.cons ht hts),
      startsWith_eq _ (.cons ht hts)]

theorem sim_addedColumn? : Sim f (Option.Rel (Element.Alike f)) addedColumn? addedColumn? := by
  have hread : Sim f (Option.Rel (Element.Alike f)) (do let _ ← word "COLUMN"; ifNotExists; column?)
      (do let _ ← word "COLUMN"; ifNotExists; column?) :=
    (sim_word _).seq fun _ => sim_ifNotExists.seq fun _ => sim_column?
  intro ts ts' hts
  have hfound := hread hts
  unfold addedColumn?
  dsimp only
  generalize (do let _ ← word "COLUMN"; ifNotExists; column? : Reading _) ts = o,
    (do let _ ← word "COLUMN"; ifNotExists; column? : Reading _) ts' = o' at hfound
  cases hfound with
  | none => exact .none
  | @some found found' hfound =>
    obtain ⟨e, rest⟩ := found
    obtain ⟨e', rest'⟩ := found'
    obtain ⟨he, hrest⟩ := hfound
    cases he with
    | none => exact .some ⟨.none, hts⟩
    | some he =>
      cases he with
      | column name htype hcs => exact .some ⟨.some (.column name htype hcs), hrest⟩
      | constraint | named => exact .some ⟨.none, hts⟩

theorem sim_addition? : Sim f (Option.Rel (Element.Alike f)) addition? addition? := by
  refine (sim_word _).seq fun _ => sim_seesConstraint.seq fun _ => Sim.ite sim_constraint? ?_
  refine Sim.ite (Sim.pure .none) (sim_addedColumn?.bind? (Sim.pure .none) fun _ _ h => ?_)
  exact (sim_oneOf _).seq fun _ => Sim.when sim_name? (Sim.pure (.some h))

theorem sim_alter : Sim f (Statement.Alike f) alter alter := by
  have hother : Sim f (Statement.Alike f) (do skipAll; return .other) (do skipAll; return .other) :=
    sim_skipAll.seq fun _ => Sim.pure .other
  refine (sim_oneOf _).seq fun _ => Sim.ite hother ?_
  refine (sim_words _).seq fun _ => (sim_word _).seq fun _ => sim_tableName.seq fun name => ?_
  refine (sim_sees (deaf_isWord _)).seq fun _ => Sim.ite ?_ hother
  refine sim_get.bind fun ts ts' hts => ?_
  rw [hts.length_eq]
  refine (sim_addition?.listed _).bind fun es es' hes => (sim_words _).seq fun _ => ?_
  refine sim_get.bind fun us us' hus => ?_
  cases hus with
  | nil => exact Sim.pure (.alterTable name hes)
  | cons _ _ => exact hother

theorem sim_drop : Sim f Eq drop drop := by
  refine (sim_oneOf _).seq fun _ => (sim_word _).seq fun _ => (sim_oneOf _).seq fun _ => ?_
  refine Sim.ite ?_ sim_skipAll
  refine (sim_word _).seq fun _ => (sim_words _).seq fun _ => sim_tableName.seq fun _ => ?_
  refine (sim_word _).seq fun _ => Sim.when sim_tableName ?_
  refine (sim_sign _).seq fun _ => Sim.when sim_group ?_
  exact (sim_oneOf _).seq fun _ => (sim_word _).seq fun _ => (sim_word _).seq fun _ => Sim.pure rfl

theorem sim_commentOn : Sim f Eq commentOn commentOn := by
  have htext : Sim f Eq
      (do let _ ← word "IS"; let _ ← need? (take? (·.kind == .string)); return ())
      (do let _ ← word "IS"; let _ ← need? (take? (·.kind == .string)); return ()) :=
    (sim_word _).seq fun _ => (sim_take? (deaf_kind _)).need?.bind fun _ _ _ => Sim.pure rfl
  refine (sim_words _).seq fun _ => (sim_word _).seq fun _ => (sim_word _).seq fun _ => ?_
  refine (sim_word _).seq fun _ => (sim_word _).seq fun _ => Sim.ite ?_ ?_
  · exact sim_tableName.seq fun _ => htext
  refine (sim_oneOf _).seq fun _ => Sim.ite (sim_anyName?.need?.bind fun _ _ _ => ?_) ?_
  · exact (sim_sign _).seq fun _ => Sim.when sim_group htext
  · exact sim_skipAll.seq fun _ => Sim.pure rfl

theorem sim_loneExpression : Sim f Eq loneExpression loneExpression := by
  refine quiet_expression?.need?.bind fun _ _ _ => (sim_word _).seq fun _ => Sim.ite ?_ ?_
  · exact sim_anyName?.need?.bind fun _ _ _ => Sim.pure rfl
  · exact sim_name?.bind fun _ _ _ => Sim.pure rfl

theorem any_eq (h : Alike f ts ts') {test : Token → Bool} (hdeaf : Deaf test) :
    ts.any test = ts'.any test := by
  induction h with
  | nil => rfl
  | cons ht _ ih => rw [List.any_cons, List.any_cons, ih, hdeaf ht]

theorem all_eq (h : Alike f ts ts') {test : Token → Bool} (hdeaf : Deaf test) :
    ts.all test = ts'.all test := by
  induction h with
  | nil => rfl
  | cons ht _ ih => rw [List.all_cons, List.all_cons, ih, hdeaf ht]

theorem sim_statement : Sim f (Statement.Alike f) statement statement := by
  refine (sim_word _).seq fun _ => Sim.ite sim_create ?_
  have hother : Sim f (Statement.Alike f) (Pure.pure .other) (Pure.pure .other) := Sim.pure .other
  refine (sim_word _).seq fun _ => Sim.ite sim_alter (sim_get.bind fun ts ts' hts => ?_)
  rw [show ts.isEmpty = ts'.isEmpty by cases hts <;> rfl]
  refine Sim.ite hother ((sim_oneOf _).seq fun _ => Sim.ite (sim_skipAll.seq fun _ => hother) ?_)
  refine (sim_oneOf _).seq fun _ => Sim.ite (sim_get.bind fun us us' hus => ?_) ?_
  · rw [any_eq hus (deaf_isWord _)]
    have hrest := sim_skipBalanced.seq fun _ => hother
    exact Sim.ite (Sim.failure.seq fun _ => hrest) hrest
  refine (sim_oneOf _).seq fun _ => Sim.ite (sim_get.bind fun us us' hus => ?_) ?_
  · rw [all_eq hus (deaf_kind _)]
    exact Sim.ite (sim_skipAll.seq fun _ => hother) hother
  refine (sim_word _).seq fun _ => Sim.ite (sim_drop.seq fun _ => hother) ?_
  refine (sim_word _).seq fun _ => Sim.ite (sim_commentOn.seq fun _ => hother) ?_
  exact sim_loneExpression.seq fun _ => hother

end Reading

/-- Tokens that are alike make up statements that are alike, or break the grammar both. -/
theorem Statement.ofTokens?_alike {ts ts' : List Token} (h : Postgres.Alike f ts ts') :
    Option.Rel (Statement.Alike f) (Statement.ofTokens? ts) (Statement.ofTokens? ts') := by
  have hfound := Reading.sim_statement h
  unfold Statement.ofTokens?
  generalize Reading.statement ts = o, Reading.statement ts' = o' at hfound
  cases hfound with
  | none => exact .none
  | some hfound =>
    obtain ⟨hs, hrest⟩ := hfound
    rename_i found found'
    obtain ⟨s, rest⟩ := found
    obtain ⟨s', rest'⟩ := found'
    cases hrest with
    | nil => exact .some hs
    | cons _ _ => exact .none

end SchemaDiagram.Postgres
