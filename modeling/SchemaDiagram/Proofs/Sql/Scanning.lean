import SchemaDiagram.Proofs.Sql.Body

/-!
Scans place by place. Which quote is open at a place and how many parentheses, counted outside
quotes, decides where the body of a table ends and where its definitions are cut.
-/
namespace SchemaDiagram.Sql

variable {t b p r u : Text} {first start n : Nat} {c : Char}

/-- A backslash stands right before a place. -/
def isEscaped (t : Text) (i : Nat) : Bool := i != 0 && t[i - 1]? == some '\\'

/-- A quote opens or closes at a place. -/
def isMark (t : Text) (i : Nat) : Bool := t[i]?.any isQuote && !isEscaped t i

/-- The quote that is open `n` characters after the place where a scan has started. -/
def openQuote (t : Text) (first : Nat) : Nat → Option Char
  | 0 => none
  | n + 1 =>
    if isMark t (first + n) then
      match openQuote t first n with
      | none => t[first + n]?
      | some q => if t[first + n]? = some q then none else some q
    else openQuote t first n

/-- A character stands outside quotes `n` characters after the place where a scan has started. -/
def isBare (t : Text) (first : Nat) (c : Char) (n : Nat) : Bool :=
  t[first + n]? == some c && openQuote t first n == none

/-- The parentheses that open outside quotes among `n` characters, less those that close there. -/
def balance (t : Text) (first n : Nat) : Int :=
  ((List.range n).countP (isBare t first '(') : Int) - (List.range n).countP (isBare t first ')')

theorem balance_succ (t : Text) (first n : Nat) : balance t first (n + 1) = balance t first n +
    ((if isBare t first '(' n then 1 else 0) - (if isBare t first ')' n then 1 else 0)) := by
  cases h : isBare t first '(' n <;> cases h' : isBare t first ')' n <;>
    simp [balance, List.range_succ, h, h'] <;> omega

namespace Scan

/-- Where a scan stands `n` characters after the place where it has started. -/
def placed (t : Text) (first n : Nat) : Scan :=
  { quote := openQuote t first n, escaped := isEscaped t (first + n), depth := balance t first n }

theorem atTop_iff {s : Scan} : s.atTop = true ↔ s.quote = none ∧ s.depth = 0 := by
  simp [atTop]

theorem placed_atTop : (placed t first n).atTop = true ↔
    openQuote t first n = none ∧ balance t first n = 0 := atTop_iff

theorem within_depth (s : Scan) : s.within.depth = s.depth + 1 := rfl

theorem next_placed (hc : t[first + n]? = some c) :
    (placed t first n).next c = placed t first (n + 1) := by
  have hmark : isMark t (first + n) = (isQuote c && !isEscaped t (first + n)) := by
    simp [isMark, hc]
  have hquote : (if isQuote c && !isEscaped t (first + n) then toggle c (openQuote t first n)
      else openQuote t first n) = openQuote t first (n + 1) := by
    rw [openQuote, hmark, hc]
    cases openQuote t first n with
    | none => rfl
    | some q => simp only [toggle, Option.some.injEq, eq_comm]
  have hescaped : (c == '\\') = isEscaped t (first + (n + 1)) := by
    simp [isEscaped, ← Nat.add_assoc, hc]
  have hdepth : (if (openQuote t first (n + 1)).isNone then balance t first n + slope c
      else balance t first n) = balance t first (n + 1) := by
    by_cases hparenthesis : c = '(' ∨ c = ')'
    · have hstill : openQuote t first (n + 1) = openQuote t first n := by
        rw [← hquote]
        rcases hparenthesis with rfl | rfl <;> rfl
      rw [hstill, balance_succ]
      rcases hparenthesis with rfl | rfl <;> cases hq : openQuote t first n <;>
        simp [isBare, hc, hq, slope]
    · obtain ⟨hopen, hclose⟩ := not_or.mp hparenthesis
      simp [balance_succ, isBare, hc, slope, hopen, hclose]
  rw [← hquote] at hdepth
  exact (Scan.mk.injEq ..).mpr ⟨hquote, hescaped, hdepth⟩

theorem after_append (s : Scan) (t u : Text) : s.after (t ++ u) = (s.after t).after u :=
  List.foldl_append

/-- A scan of some characters ends where it stands at the place after them. -/
theorem after_take (h : first + n ≤ t.length) :
    (placed t first 0).after ((t.drop first).take n) = placed t first n := by
  induction n with
  | zero => rfl
  | succ n ih =>
    have hlt : first + n < t.length := by omega
    have hnext : (t.drop first)[n]? = some t[first + n] := by
      rw [List.getElem?_drop, List.getElem?_eq_getElem hlt]
    rw [List.take_add_one, hnext, after_append, ih (by omega)]
    exact next_placed (List.getElem?_eq_getElem hlt)

theorem after_within (s : Scan) (t : Text) : s.within.after t = (s.after t).within := by
  induction t generalizing s with
  | nil => rfl
  | cons c t ih =>
    calc s.within.after (c :: t) = (s.within.next c).after t := rfl
      _ = ((s.next c).after t).within := by rw [next_within, ih]

/-- The scan ends a body where the depth first falls to zero. -/
theorem body?_eq_some_iff {s : Scan} (hs : 0 < s.depth) : s.body? t = some (b, r) ↔
    ∃ c, t = b ++ c :: r ∧ (∀ n ≤ b.length, 0 < (s.after (b.take n)).depth) ∧
      ((s.after b).next c).depth ≤ 0 := by
  induction t generalizing s b with
  | nil => simp [body?]
  | cons c t ih =>
    rw [body?]
    by_cases hd : (s.next c).depth ≤ 0
    · rw [if_pos hd]
      constructor
      · rintro ⟨⟩
        exact ⟨c, rfl, fun n _ => by simpa [after] using hs, hd⟩
      · rintro ⟨d, heq, hprefix, -⟩
        cases b with
        | nil =>
          obtain ⟨-, rfl⟩ := List.cons.inj heq
          rfl
        | cons e b =>
          obtain ⟨rfl, -⟩ := List.cons.inj heq
          have hfirst : 0 < (s.next c).depth := hprefix 1 (by simp)
          omega
    · rw [if_neg hd]
      have hnext : 0 < (s.next c).depth := by omega
      constructor
      · intro h
        obtain ⟨⟨b', r'⟩, hbody, heq⟩ := Option.map_eq_some_iff.mp h
        cases heq
        obtain ⟨d, rfl, hprefix, hend⟩ := (ih hnext).mp hbody
        refine ⟨d, rfl, fun n hn => ?_, hend⟩
        cases n with
        | zero => exact hs
        | succ n => exact hprefix n (by simpa using hn)
      · rintro ⟨d, heq, hprefix, hend⟩
        cases b with
        | nil =>
          obtain ⟨rfl, -⟩ := List.cons.inj heq
          exact absurd hend hd
        | cons e b =>
          obtain ⟨rfl, rfl⟩ := List.cons.inj heq
          have hbody : (s.next c).body? (b ++ d :: r) = some (b, r) :=
            (ih hnext).mpr ⟨d, rfl, fun n hn => hprefix (n + 1) (by simpa using hn), hend⟩
          exact congrArg (Option.map fun found => (c :: found.1, found.2)) hbody

/-- Only a closing parenthesis outside quotes takes the depth below zero. -/
theorem next_depth_neg_iff {s : Scan} (hs : 0 ≤ s.depth) :
    (s.next c).depth < 0 ↔ c = ')' ∧ s.quote = none ∧ s.depth = 0 := by
  by_cases hc : c = ')'
  · subst hc
    cases hq : s.quote with
    | none =>
      have hdepth : (s.next ')').depth = s.depth - 1 := by
        simp [next, isQuote, hq, slope, Int.sub_eq_add_neg]
      rw [hdepth]
      simp only [true_and]
      omega
    | some q =>
      have hdepth : (s.next ')').depth = s.depth := by simp [next, isQuote, hq]
      simp [hdepth, hs]
  · have hslope : 0 ≤ slope c := by
      simp only [slope, hc, if_false]
      split <;> decide
    have hdepth : s.depth ≤ (s.next c).depth := by
      simp only [next]
      split <;> omega
    simp only [hc, false_and, iff_false]
    omega

/-- One level down, the body ends at the closing parenthesis at which the scan stands at the top. -/
theorem body?_within_iff {s : Scan} (hs : 0 ≤ s.depth) : s.within.body? t = some (b, r) ↔
    t = b ++ ')' :: r ∧ (∀ n ≤ b.length, 0 ≤ (s.after (b.take n)).depth) ∧
      (s.after b).atTop = true := by
  have hlevel (u : Text) : 0 < (s.within.after u).depth ↔ 0 ≤ (s.after u).depth := by
    rw [after_within, within_depth]
    omega
  have hend (c : Char) : ((s.within.after b).next c).depth ≤ 0 ↔ ((s.after b).next c).depth < 0 := by
    rw [after_within, next_within, within_depth]
    omega
  have hwithin : 0 < s.within.depth := by
    rw [within_depth]
    omega
  simp only [body?_eq_some_iff hwithin, hlevel, hend]
  constructor
  · rintro ⟨c, rfl, hprefix, hneg⟩
    have hb : 0 ≤ (s.after b).depth := by simpa using hprefix b.length (Nat.le_refl _)
    obtain ⟨rfl, hquote, hdepth⟩ := (next_depth_neg_iff hb).mp hneg
    exact ⟨rfl, hprefix, atTop_iff.mpr ⟨hquote, hdepth⟩⟩
  · rintro ⟨rfl, hprefix, htop⟩
    obtain ⟨hquote, hdepth⟩ := atTop_iff.mp htop
    exact ⟨')', rfl, hprefix, (next_depth_neg_iff (by omega)).mpr ⟨rfl, hquote, hdepth⟩⟩

end Scan

/-- The text between the parenthesis at `start` and its match: what a closing parenthesis follows,
where the depth never falls below zero and the scan ends at depth zero outside quotes. -/
structure IsBody (t : Text) (start : Nat) (b : Text) : Prop where
  closed : ∃ r, t.drop (start + 1) = b ++ ')' :: r
  level : ∀ n ≤ b.length, 0 ≤ balance t (start + 1) n
  settled : balance t (start + 1) b.length = 0
  bare : openQuote t (start + 1) b.length = none

theorem bodyAt?_eq_some_iff : bodyAt? t start = some b ↔ IsBody t start b := by
  have hstart : ({ escaped := t[start]? == some '\\', depth := 1 } : Scan) =
      (Scan.placed t (start + 1) 0).within := by
    simp [Scan.placed, Scan.within, openQuote, isEscaped, balance]
  have hplaced (r : Text) (h : t.drop (start + 1) = b ++ ')' :: r) (n : Nat) (hn : n ≤ b.length) :
      (Scan.placed t (start + 1) 0).after (b.take n) = Scan.placed t (start + 1) n := by
    have hlength : t.length - (start + 1) = b.length + (r.length + 1) := by
      simpa using congrArg List.length h
    rw [← List.take_append_of_le_length hn, ← h, Scan.after_take (by omega)]
  have hdepth : 0 ≤ (Scan.placed t (start + 1) 0).depth := Int.le_refl 0
  have hb (r : Text) (h : t.drop (start + 1) = b ++ ')' :: r) :
      (Scan.placed t (start + 1) 0).after b = Scan.placed t (start + 1) b.length := by
    simpa using hplaced r h b.length (Nat.le_refl _)
  rw [bodyAt?, hstart]
  constructor
  · intro h
    obtain ⟨⟨b', r⟩, hbody, rfl⟩ := Option.map_eq_some_iff.mp h
    obtain ⟨heq, hprefix, htop⟩ := (Scan.body?_within_iff hdepth).mp hbody
    rw [hb r heq] at htop
    obtain ⟨hbare, hsettled⟩ := Scan.placed_atTop.mp htop
    refine ⟨⟨r, heq⟩, fun n hn => ?_, hsettled, hbare⟩
    have hn' := hprefix n hn
    rwa [hplaced r heq n hn] at hn'
  · rintro ⟨⟨r, heq⟩, hlevel, hsettled, hbare⟩
    have hbody : (Scan.placed t (start + 1) 0).within.body? (t.drop (start + 1)) = some (b, r) := by
      refine (Scan.body?_within_iff hdepth).mpr ⟨heq, fun n hn => ?_, ?_⟩
      · rw [hplaced r heq n hn]
        exact hlevel n hn
      · rw [hb r heq]
        exact Scan.placed_atTop.mpr ⟨hbare, hsettled⟩
    rw [hbody]
    rfl

/-- There is one match at most: one of two bodies would else have to close within the other. -/
theorem IsBody.unique {b' : Text} (h : IsBody t start b) (h' : IsBody t start b') : b = b' :=
  Option.some.inj ((bodyAt?_eq_some_iff.mpr h).symm.trans (bodyAt?_eq_some_iff.mpr h'))

theorem bodyAt?_eq_none_iff : bodyAt? t start = none ↔ ∀ b, ¬ IsBody t start b := by
  simp only [Option.eq_none_iff_forall_ne_some, ne_eq, bodyAt?_eq_some_iff]

theorem IsBody.lt_length (h : IsBody t start b) : start + 1 < t.length := by
  obtain ⟨r, hr⟩ := h.closed
  have hlength : t.length - (start + 1) = b.length + (r.length + 1) := by
    simpa using congrArg List.length hr
  omega

/-- The body of a table ends at the parenthesis that matches, and at no other place. -/
theorem tableBody_matching (t : Text) (start : Nat) (name : Text) :
    (∀ b, tableBody t start name = .ok b ↔ IsBody t start b) ∧
    (∀ b b', IsBody t start b → IsBody t start b' → b = b') ∧
    (∀ fault, tableBody t start name = .error fault ↔
      fault = .unbalanced name ∧ ∀ b, ¬ IsBody t start b) ∧
    (t.length ≤ start → tableBody t start name = .error (.unbalanced name)) := by
  have hok (b : Text) : tableBody t start name = .ok b ↔ IsBody t start b := by
    rw [← bodyAt?_eq_some_iff, tableBody]
    cases bodyAt? t start <;> simp
  have herror (fault : Fault) : tableBody t start name = .error fault ↔
      fault = .unbalanced name ∧ ∀ b, ¬ IsBody t start b := by
    rw [← bodyAt?_eq_none_iff, tableBody]
    cases bodyAt? t start <;> simp [eq_comm]
  refine ⟨hok, fun _ _ => IsBody.unique, herror, fun hlength => ?_⟩
  refine (herror _).mpr ⟨rfl, fun b hb => ?_⟩
  have hlt := hb.lt_length
  omega

variable {rest name : Text}

theorem afterCapitals_suffix {capitals : Text} (h : Text.afterCapitals capitals t = some r) :
    r <:+ t := by
  fun_induction Text.afterCapitals capitals t with
  | case1 => exact Option.some.inj h ▸ List.suffix_rfl
  | case2 => cases h
  | case3 _ c t ih => exact (ih h).trans (List.suffix_cons c t)
  | case4 => cases h

theorem keywordGap?_suffix {k : String} (h : Text.keywordGap? k t = some r) : r <:+ t := by
  obtain ⟨rest, hk, hgap⟩ := Option.bind_eq_some_iff.mp h
  refine List.IsSuffix.trans ?_ (afterCapitals_suffix hk)
  cases rest with
  | nil => cases hgap
  | cons c rest =>
    rw [Text.gap?] at hgap
    split at hgap
    · cases hgap
      exact (List.dropWhile_suffix _).trans (List.suffix_cons c rest)
    · cases hgap

theorem name?_suffix {found : Text × Text} (h : name? t = some found) : found.2 <:+ t := by
  cases t with
  | nil => cases h
  | cons c t =>
    rw [name?] at h
    split at h
    · next close _ =>
      obtain ⟨inner, hinner, rfl⟩ := Option.map_eq_some_iff.mp h
      refine List.IsSuffix.trans ?_ (List.suffix_cons c t)
      rw [enclosed?] at hinner
      split at hinner
      · next d _ e rest _ hrest =>
        cases hinner
        exact (List.suffix_cons e rest).trans (hrest ▸ List.dropWhile_suffix (· != close))
      · cases hinner
    · rw [Text.word?] at h
      split at h
      · cases h
      · cases h
        exact List.dropWhile_suffix _

theorem dot?_suffix (h : dot? t = some r) : r <:+ t := by
  rw [dot?] at h
  split at h
  · next rest hrest =>
    cases h
    exact (List.dropWhile_suffix _).trans ((List.suffix_cons '.' rest).trans
      (hrest ▸ List.dropWhile_suffix _))
  · cases h

theorem qualified_suffix {found : Text × Text} (h : found ∈ qualified t) : found.2 <:+ t := by
  fun_induction qualified t with
  | case1 => cases h
  | case2 t name rest hname _ =>
    obtain rfl := List.mem_singleton.mp h
    exact name?_suffix hname
  | case3 t name rest hname rest' hdot _ ih =>
    rcases List.mem_append.mp h with h | h
    · exact (ih h).trans ((dot?_suffix hdot).trans (name?_suffix hname))
    · obtain rfl := List.mem_singleton.mp h
      exact name?_suffix hname

theorem skipTemporary_suffix (t : Text) : skipTemporary t <:+ t := by
  rw [skipTemporary]
  cases h : (Text.keywordGap? "TEMPORARY" t).or (Text.keywordGap? "TEMP" t) with
  | none => exact List.suffix_rfl
  | some r =>
    rcases Option.or_eq_some_iff.mp h with h | ⟨-, h⟩
    · exact keywordGap?_suffix h
    · exact keywordGap?_suffix h

theorem skipIfNotExists_suffix (t : Text) : skipIfNotExists t <:+ t := by
  rw [skipIfNotExists]
  cases h : Text.keywordGap? "IF" t >>= Text.keywordGap? "NOT" >>= Text.keywordGap? "EXISTS" with
  | none => exact List.suffix_rfl
  | some r =>
    obtain ⟨_, h, hexists⟩ := Option.bind_eq_some_iff.mp h
    obtain ⟨_, hif, hnot⟩ := Option.bind_eq_some_iff.mp h
    exact (keywordGap?_suffix hexists).trans ((keywordGap?_suffix hnot).trans
      (keywordGap?_suffix hif))

theorem createHead?_suffix (h : createHead? t = some (name, rest)) : '(' :: rest <:+ t := by
  obtain ⟨afterCreate, hcreate, h⟩ := Option.bind_eq_some_iff.mp h
  obtain ⟨afterTable, htable, h⟩ := Option.bind_eq_some_iff.mp h
  obtain ⟨⟨_, afterName⟩, hname, h⟩ := Option.bind_eq_some_iff.mp h
  have hparenthesis : '(' :: rest = Text.skipBlanks afterName := by
    dsimp only at h
    split at h
    · next heq =>
      cases h
      exact heq.symm
    · cases h
  have hname : Text.skipBlanks afterName <:+ skipIfNotExists afterTable :=
    (List.dropWhile_suffix _).trans (qualified_suffix (List.mem_of_mem_head? hname))
  have htable : skipIfNotExists afterTable <:+ skipTemporary afterCreate :=
    (skipIfNotExists_suffix _).trans (keywordGap?_suffix htable)
  have hcreate : skipTemporary afterCreate <:+ t :=
    (skipTemporary_suffix _).trans (keywordGap?_suffix hcreate)
  rw [hparenthesis]
  exact hname.trans (htable.trans hcreate)

/-- The columns of a table are read from the body that starts at the parenthesis after its name. -/
theorem createTable_of_head (h : createHead? t = some (name, rest)) :
    ∃ start, t[start]? = some '(' ∧ t.drop (start + 1) = rest ∧ createTable t =
      (tableBody t start name).map fun body => some (tableOf name (parts body)) := by
  obtain ⟨before, rfl⟩ := createHead?_suffix h
  have hopen : (before ++ '(' :: rest)[before.length]? = some '(' := by simp
  have hdrop : (before ++ '(' :: rest).drop (before.length + 1) = rest := by simp
  refine ⟨before.length, hopen, hdrop, ?_⟩
  have hmark : (some '(' == some '\\') = false := rfl
  rw [createTable, h, tableBody, bodyAt?, hopen, hdrop, hmark]
  dsimp only
  cases Scan.body? { depth := 1 } rest <;> rfl

end SchemaDiagram.Sql
