import Mathlib.Data.List.TakeWhile
import SchemaDiagram.Proofs.Sql.Agreement
import SchemaDiagram.Proofs.Sql.Tails

/-!
Statements in front of other text. What a reader leaves of a text, where it is more than some end of
the text, it leaves of what stands in front of that end alone. So a statement that changes a table is
the same with what follows and without it, unless its reading goes on into what follows.
-/
namespace SchemaDiagram

variable {α : Type} {c : Char} {t u r z name rest : Text}

namespace Text

/-- A run that takes all of a text leaves at most what comes later. -/
theorem length_dropWhile_append_le {p : Char → Bool} (h : t.dropWhile p = []) (z : Text) :
    ((t ++ z).dropWhile p).length ≤ z.length := by
  rw [List.dropWhile_append_of_pos (List.dropWhile_eq_nil_iff.mp h)]
  exact (List.dropWhile_suffix p).length_le

theorem exists_of_gap? (h : gap? t = some r) :
    ∃ c t', t = c :: t' ∧ isBlank c = true ∧ r = skipBlanks t' := by
  cases t with
  | nil => cases h
  | cons c t =>
    rw [gap?] at h
    split at h
    · next hc =>
      cases h
      exact ⟨c, t, rfl, hc, rfl⟩
    · cases h

theorem gap?_suffix (h : gap? t = some r) : r <:+ t := by
  obtain ⟨c, t, rfl, -, rfl⟩ := exists_of_gap? h
  exact (List.dropWhile_suffix _).trans (List.suffix_cons c t)

theorem gap?_shorter (h : gap? t = some r) : r.length < t.length := by
  obtain ⟨c, t, rfl, -, rfl⟩ := exists_of_gap? h
  exact Nat.lt_succ_of_le (Sql.skipBlanks_le t)

/-- The texts that are longer than some end. -/
def leaving (z : Text) (found : List Text) : List Text :=
  found.filter fun r => decide (z.length < r.length)

/-- What such a reader leaves of a text with an end, if it is more than the end, it leaves of the
text without it. -/
def Nearsighted (read : Text → List Text) : Prop :=
  ∀ u z, leaving z (read (u ++ z)) = (leaving [] (read u)).map (· ++ z)

/-- What such a reader leaves of a text is an end of it. -/
def ReadsOn (read : Text → List Text) : Prop := ∀ t, ∀ r ∈ read t, r <:+ t

variable {read next : Text → List Text} {skip skip' : Text → Option Text}

theorem leaving_eq_nil {found : List Text} (h : ∀ r ∈ found, r.length ≤ z.length) :
    leaving z found = [] := by
  refine List.filter_eq_nil_iff.mpr fun r hr => ?_
  simpa using h r hr

theorem leaving_map (z : Text) (found : List Text) :
    leaving z (found.map (· ++ z)) = (leaving [] found).map (· ++ z) := by
  have hlonger : ((fun r => decide (z.length < r.length)) ∘ (· ++ z)) =
      fun r : Text => decide (([] : Text).length < r.length) :=
    funext fun r => by simp
  rw [leaving, List.filter_map, hlonger, leaving]

/-- Where a step answers nothing to what is no longer than the end, only the rest counts. -/
theorem flatMap_leaving {step : Text → List α} (h : ∀ t, t.length ≤ z.length → step t = [])
    (found : List Text) : (leaving z found).flatMap step = found.flatMap step := by
  induction found with
  | nil => rfl
  | cons t found ih =>
    unfold leaving at ih ⊢
    by_cases ht : z.length < t.length
    · rw [List.filter_cons_of_pos (by simpa using ht), List.flatMap_cons, List.flatMap_cons, ih]
    · rw [List.filter_cons_of_neg (by simpa using ht), ih, List.flatMap_cons,
        h t (Nat.le_of_not_lt ht), List.nil_append]

theorem leaving_flatMap (h : ReadsOn next) (z : Text) (found : List Text) :
    leaving z (found.flatMap next) = (leaving z found).flatMap fun t => leaving z (next t) := by
  have hshort : ∀ t : Text, t.length ≤ z.length → leaving z (next t) = [] := fun t ht =>
    leaving_eq_nil fun r hr => (h t r hr).length_le.trans ht
  rw [flatMap_leaving hshort, leaving, List.filter_flatMap]
  rfl

theorem Nearsighted.flatMap (h : Nearsighted read) (hn : Nearsighted next) (hs : ReadsOn next) :
    Nearsighted fun t => (read t).flatMap next := by
  intro u z
  rw [leaving_flatMap hs, h u z, List.flatMap_map, leaving_flatMap hs, List.map_flatMap]
  exact List.flatMap_congr fun t _ => hn t z

theorem Nearsighted.bind (h : Nearsighted fun t => (skip t).toList)
    (hn : Nearsighted fun t => (skip' t).toList) (hs : ReadsOn fun t => (skip' t).toList) :
    Nearsighted fun t => (skip t >>= skip').toList := by
  have hsame : (fun t => (skip t >>= skip').toList) =
      fun t => (skip t).toList.flatMap fun t => (skip' t).toList :=
    funext fun t => by cases skip t <;> simp
  rw [hsame]
  exact h.flatMap hn hs

theorem Nearsighted.optionally (h : Nearsighted fun t => (skip t).toList) :
    Nearsighted (optionally skip) := by
  intro u z
  have hskip := h u z
  have hself := leaving_map z [u]
  unfold leaving at hskip hself ⊢
  rw [List.map_singleton] at hself
  simp only [Text.optionally, List.filter_append, List.map_append, hskip, hself]

theorem ReadsOn.flatMap (h : ReadsOn read) (hn : ReadsOn next) :
    ReadsOn fun t => (read t).flatMap next := by
  intro t r hr
  obtain ⟨s, hs, hr⟩ := List.mem_flatMap.mp hr
  exact (hn s r hr).trans (h t s hs)

theorem ReadsOn.optionally (h : ReadsOn fun t => (skip t).toList) : ReadsOn (optionally skip) := by
  intro t r hr
  rcases List.mem_append.mp hr with hr | hr
  · exact h t r hr
  · exact List.mem_singleton.mp hr ▸ List.suffix_rfl

theorem readsOn_of_suffix (h : ∀ {t r}, skip t = some r → r <:+ t) :
    ReadsOn fun t => (skip t).toList := fun _ _ hr => h (Option.mem_toList.mp hr)

theorem nearsighted_afterCapitals (k : Text) : Nearsighted fun t => (afterCapitals k t).toList := by
  intro u z
  induction k generalizing u with
  | nil => exact leaving_map z [u]
  | cons a k ih =>
    cases u with
    | nil => exact leaving_eq_nil fun r hr =>
        (readsOn_of_suffix Sql.afterCapitals_suffix z r hr).length_le
    | cons d u =>
      simp only [List.cons_append, afterCapitals]
      split
      · exact ih u
      · rfl

theorem readsOn_gap? : ReadsOn fun t => (gap? t).toList := readsOn_of_suffix gap?_suffix

theorem nearsighted_gap? : Nearsighted fun t => (gap? t).toList := by
  intro u z
  cases u with
  | nil => exact leaving_eq_nil fun r hr => (readsOn_gap? z r hr).length_le
  | cons d u =>
    simp only [List.cons_append, gap?]
    split
    · by_cases hu : skipBlanks u = []
      · have hshort : (skipBlanks (u ++ z)).length ≤ z.length := length_dropWhile_append_le hu z
        rw [hu, leaving_eq_nil (by simpa using hshort)]
        rfl
      · rw [Sql.skipBlanks_append_of_stops hu]
        exact leaving_map z [skipBlanks u]
    · rfl

theorem nearsighted_keywordGap? (k : String) : Nearsighted fun t => (keywordGap? k t).toList :=
  (nearsighted_afterCapitals k.toList).bind nearsighted_gap? readsOn_gap?

theorem readsOn_keywordGap? (k : String) : ReadsOn fun t => (keywordGap? k t).toList :=
  readsOn_of_suffix Sql.keywordGap?_suffix

end Text

namespace Sql

/-- What is enclosed by none of two texts is enclosed by them together at most over the border. -/
theorem enclosed?_over {close : Char} {f : Text × Text} (hu : enclosed? close u = none)
    (h : enclosed? close (u ++ z) = some f) : f.2.length < z.length := by
  by_cases hstops : u.dropWhile (· != close) = []
  · have hall : ∀ c ∈ u, (c != close) = true := List.dropWhile_eq_nil_iff.mp hstops
    unfold enclosed? at h
    split at h
    · next c content d rest _ hdrop =>
      cases h
      rw [List.dropWhile_append_of_pos hall] at hdrop
      have hlength := (List.dropWhile_suffix (· != close) (l := z)).length_le
      rw [hdrop, List.length_cons] at hlength
      exact hlength
    · cases h
  · rw [enclosed?, Text.takeWhile_append_of_stops hstops,
      Text.dropWhile_append_of_stops hstops] at h
    rw [enclosed?] at hu
    obtain ⟨d, rest, hdrop⟩ := List.exists_cons_of_ne_nil hstops
    cases htake : u.takeWhile (· != close) with
    | nil => simp [htake] at h
    | cons c content => simp [htake, hdrop] at hu

theorem word?_cons (hc : Text.isWord c = true) (t : Text) : Text.word? (c :: t) =
    some ((c :: t).takeWhile Text.isWord, (c :: t).dropWhile Text.isWord) := by
  rw [Text.word?, Text.word, List.takeWhile_cons_of_pos hc]

theorem word?_over {f : Text × Text} (hu : ∀ g ∈ Text.word? (c :: u), g.2 = [])
    (h : Text.word? (c :: (u ++ z)) = some f) : f.2.length ≤ z.length := by
  by_cases hc : Text.isWord c = true
  · rw [word?_cons hc] at h hu
    cases h
    exact Text.length_dropWhile_append_le (hu _ rfl) z
  · rw [Text.word?, Text.word, List.takeWhile_cons_of_neg hc] at h
    cases h

/-- What takes all of a text, or nothing of it alone, leaves at most what follows. -/
theorem name?_over {f : Text × Text} (hu : ∀ g ∈ name? u, g.2 = [])
    (h : name? (u ++ z) = some f) : f.2.length ≤ z.length := by
  cases u with
  | nil => exact (name?_shorter h).le
  | cons d u =>
    rw [List.cons_append, name?] at h
    rw [name?] at hu
    cases hd : closer? d with
    | some close =>
      simp only [hd] at h hu
      obtain ⟨inner, hinner, rfl⟩ := Option.map_eq_some_iff.mp h
      cases hshort : enclosed? close u with
      | none => exact (enclosed?_over hshort hinner).le
      | some g =>
        have hlong := enclosed?_append hshort z
        rw [hinner] at hlong
        cases hlong
        have hnil : g.2 = [] := hu (d :: g.1, g.2) (by rw [hshort]; rfl)
        simp [hnil]
    | none =>
      simp only [hd] at h hu
      exact word?_over hu h

/-- A name that leaves something of a text is the same whatever comes behind the text; otherwise what
is read with that leaves no more than that. -/
theorem name?_border (u z : Text) :
    (∃ name rest, name? u = some (name, rest) ∧ rest ≠ [] ∧
      name? (u ++ z) = some (name, rest ++ z)) ∨
    (∀ f ∈ name? u, f.2 = []) ∧ ∀ f ∈ name? (u ++ z), f.2.length ≤ z.length := by
  by_cases hu : ∀ f ∈ name? u, f.2 = []
  · exact Or.inr ⟨hu, fun f hf => name?_over hu hf⟩
  · push Not at hu
    obtain ⟨⟨name, rest⟩, hname, hrest⟩ := hu
    exact Or.inl ⟨name, rest, hname, hrest, name?_append hname hrest z⟩

theorem dot?_border (t z : Text) :
    (∃ rest, dot? t = some rest ∧ rest ≠ [] ∧ dot? (t ++ z) = some (rest ++ z)) ∨
    (∀ r ∈ dot? t, r = []) ∧ ∀ r ∈ dot? (t ++ z), r.length ≤ z.length := by
  by_cases ht : ∀ r ∈ dot? t, r = []
  · refine Or.inr ⟨ht, fun r hr => ?_⟩
    unfold dot? at ht hr
    by_cases hblank : Text.skipBlanks t = []
    · have hshort : (Text.skipBlanks (t ++ z)).length ≤ z.length :=
        Text.length_dropWhile_append_le hblank z
      split at hr
      · next u hu =>
        cases hr
        rw [hu, List.length_cons] at hshort
        exact (skipBlanks_le u).trans (Nat.le_of_succ_le hshort)
      · cases hr
    · rw [skipBlanks_append_of_stops hblank] at hr
      obtain ⟨c, u, hu⟩ := List.exists_cons_of_ne_nil hblank
      simp only [hu, List.cons_append] at ht hr
      split at hr
      · next v hv =>
        obtain ⟨rfl, rfl⟩ := List.cons.inj hv
        cases hr
        exact Text.length_dropWhile_append_le (ht _ rfl) z
      · cases hr
  · push Not at ht
    obtain ⟨rest, hdot, hrest⟩ := ht
    exact Or.inl ⟨rest, hdot, hrest, dot?_append hdot hrest z⟩

/-- The readings of a name that leave more than some end. -/
def leavingBehind (z : Text) (found : List (α × Text)) : List (α × Text) :=
  found.filter fun f => decide (z.length < f.2.length)

theorem leavingBehind_eq_nil {found : List (α × Text)} (h : ∀ f ∈ found, f.2.length ≤ z.length) :
    leavingBehind z found = [] := by
  refine List.filter_eq_nil_iff.mpr fun f hf => ?_
  simpa using h f hf

/-- Every reading of a name with qualifiers goes on at least to the end of the first name. -/
theorem exists_name_of_qualified {f : Text × Text} (h : f ∈ qualified t) :
    ∃ first ∈ name? t, f.2 <:+ first.2 := by
  fun_induction qualified t with
  | case1 hname => cases h
  | case2 t name rest hname hdot =>
    obtain rfl := List.mem_singleton.mp h
    exact ⟨_, hname, List.suffix_rfl⟩
  | case3 t name rest hname rest' hdot _ =>
    refine ⟨_, hname, ?_⟩
    rcases List.mem_append.mp h with h | h
    · exact (qualified_suffix h).trans (dot?_suffix hdot)
    · obtain rfl := List.mem_singleton.mp h
      exact List.suffix_rfl

theorem leavingBehind_append (z : Text) (found others : List (α × Text)) :
    leavingBehind z (found ++ others) = leavingBehind z found ++ leavingBehind z others :=
  List.filter_append found others

/-- The readings of a name that leave more than the end of a text are those of the text in front of
the end, in their order. -/
theorem leavingBehind_qualified (u z : Text) : leavingBehind z (qualified (u ++ z)) =
    (leavingBehind [] (qualified u)).map fun f => (f.1, f.2 ++ z) := by
  have hself : ∀ {name rest : Text}, rest ≠ [] → leavingBehind z [(name, rest ++ z)] =
      (leavingBehind [] [(name, rest)]).map fun f => (f.1, f.2 ++ z) := by
    intro name rest hrest
    simp [leavingBehind, List.length_pos_iff.mpr hrest]
  have hshort : ∀ {t z : Text}, t.length ≤ z.length → leavingBehind z (qualified t) = [] :=
    fun ht => leavingBehind_eq_nil fun f hf => (qualified_suffix hf).length_le.trans ht
  induction hn : u.length using Nat.strong_induction_on generalizing u with
  | _ n ih =>
    subst hn
    rcases name?_border u z with ⟨name, rest, hname, hrest, hlong⟩ | ⟨hends, hover⟩
    · rcases dot?_border rest z with ⟨rest', hdot, -, hdot'⟩ | ⟨hends, hover⟩
      · have hshorter : rest'.length < u.length :=
          (dot?_shorter hdot).trans (name?_shorter hname)
        rw [qualified_of_dot hname hdot, qualified_of_dot hlong hdot', leavingBehind_append,
          leavingBehind_append, List.map_append, ih _ hshorter rest' rfl, hself hrest]
      · -- A dot counts for nothing here: what stands behind it leaves no more than the end.
        have hlast : leavingBehind z (qualified (u ++ z)) = leavingBehind z [(name, rest ++ z)] := by
          cases hdot : dot? (rest ++ z) with
          | none => rw [qualified_of_end hlong hdot]
          | some r =>
            rw [qualified_of_dot hlong hdot, leavingBehind_append, hshort (hover r hdot),
              List.nil_append]
        have hlast' : leavingBehind [] (qualified u) = leavingBehind [] [(name, rest)] := by
          cases hdot : dot? rest with
          | none => rw [qualified_of_end hname hdot]
          | some r =>
            rw [qualified_of_dot hname hdot, leavingBehind_append,
              hshort (List.length_eq_zero_iff.mpr (hends r hdot)).le, List.nil_append]
        rw [hlast, hlast', hself hrest]
    · have hnone : leavingBehind z (qualified (u ++ z)) = [] := by
        refine leavingBehind_eq_nil fun f hf => ?_
        obtain ⟨first, hfirst, hsuffix⟩ := exists_name_of_qualified hf
        exact hsuffix.length_le.trans (hover first hfirst)
      have hnone' : leavingBehind [] (qualified u) = [] := by
        refine leavingBehind_eq_nil fun f hf => ?_
        obtain ⟨first, hfirst, hsuffix⟩ := exists_name_of_qualified hf
        exact (hends first hfirst ▸ hsuffix).length_le
      rw [hnone, hnone']
      rfl

/-- What follows the keywords of a statement that changes a table. -/
def afterAlter? (t : Text) : Option Text :=
  Text.keywordGap? "ALTER" t >>= Text.keywordGap? "TABLE"

/-- The places where the name of the table may start. -/
def nameStarts (t : Text) : List Text :=
  ((afterAlter? t).toList.flatMap (Text.optionally (Text.keywordGap? "ONLY"))).flatMap
    (Text.optionally ifExists?)

/-- The name of a table and the actions behind it, one reading for each reading of the name. -/
def target (t : Text) : List (Text × Text) :=
  (qualified t).filterMap fun f => (Text.gap? f.2).map (unquote f.1, ·)

theorem alterHeads_eq (statement : Text) :
    alterHeads statement = (nameStarts statement).flatMap target := by
  unfold alterHeads nameStarts afterAlter?
  cases Text.keywordGap? "ALTER" statement >>= Text.keywordGap? "TABLE" with
  | none => rfl
  | some t =>
    rw [Option.toList_some, List.flatMap_singleton]
    rfl

theorem ifExists?_suffix (h : ifExists? t = some r) : r <:+ t := by
  obtain ⟨rest, hif, hexists⟩ := Option.bind_eq_some_iff.mp h
  exact (keywordGap?_suffix hexists).trans (keywordGap?_suffix hif)

theorem afterAlter?_suffix (h : afterAlter? t = some r) : r <:+ t := by
  obtain ⟨rest, halter, htable⟩ := Option.bind_eq_some_iff.mp h
  exact (keywordGap?_suffix htable).trans (keywordGap?_suffix halter)

theorem readsOn_only : Text.ReadsOn (Text.optionally (Text.keywordGap? "ONLY")) :=
  (Text.readsOn_keywordGap? "ONLY").optionally

theorem readsOn_ifExists : Text.ReadsOn (Text.optionally ifExists?) :=
  (Text.readsOn_of_suffix ifExists?_suffix).optionally

theorem readsOn_nameStarts : Text.ReadsOn nameStarts :=
  ((Text.readsOn_of_suffix afterAlter?_suffix).flatMap readsOn_only).flatMap readsOn_ifExists

theorem nearsighted_nameStarts : Text.Nearsighted nameStarts := by
  have hkeyword (k : String) := Text.nearsighted_keywordGap? k
  have halter := (hkeyword "ALTER").bind (hkeyword "TABLE") (Text.readsOn_keywordGap? "TABLE")
  have hexists := (hkeyword "IF").bind (hkeyword "EXISTS") (Text.readsOn_keywordGap? "EXISTS")
  exact (halter.flatMap (hkeyword "ONLY").optionally readsOn_only).flatMap hexists.optionally
    readsOn_ifExists

/-- The answers that leave an end of a text alone. -/
def sparing (z : Text) (found : List (α × Text)) : List (α × Text) :=
  found.filter fun f => decide (z.length ≤ f.2.length)

theorem sparing_map (z : Text) (found : List (α × Text)) :
    sparing z (found.map fun f => (f.1, f.2 ++ z)) = found.map fun f => (f.1, f.2 ++ z) := by
  refine List.filter_eq_self.mpr fun f hf => ?_
  obtain ⟨f, -, rfl⟩ := List.mem_map.mp hf
  simp

theorem sparing_nil (found : List (α × Text)) : sparing [] found = found :=
  List.filter_eq_self.mpr fun _ _ => by simp

/-- A further step that reads on spares an end only where the step before leaves more. -/
theorem sparing_filterMap {β : Type} {next : α × Text → Option (β × Text)}
    (h : ∀ f, ∀ f' ∈ next f, f'.2.length < f.2.length) (z : Text) (found : List (α × Text)) :
    sparing z (found.filterMap next) = sparing z ((leavingBehind z found).filterMap next) := by
  induction found with
  | nil => rfl
  | cons f found ih =>
    unfold sparing leavingBehind at ih ⊢
    by_cases hf : z.length < f.2.length
    · rw [List.filter_cons_of_pos (by simpa using hf)]
      cases hnext : next f with
      | none => rw [List.filterMap_cons_none hnext, List.filterMap_cons_none hnext, ih]
      | some f' =>
        rw [List.filterMap_cons_some hnext, List.filterMap_cons_some hnext, List.filter_cons,
          List.filter_cons, ih]
    · rw [List.filter_cons_of_neg (by simpa using hf), ← ih]
      cases hnext : next f with
      | none => rw [List.filterMap_cons_none hnext]
      | some f' =>
        have hshort := h f f' hnext
        rw [List.filterMap_cons_some hnext, List.filter_cons_of_neg (by simp; omega)]

theorem sparing_flatMap (z : Text) (read : Text → List (α × Text)) (found : List Text) :
    sparing z (found.flatMap read) = found.flatMap fun t => sparing z (read t) :=
  List.filter_flatMap

theorem target_shorter {f : Text × Text} (h : f ∈ target t) : f.2.length < t.length := by
  obtain ⟨g, hg, hgap⟩ := List.mem_filterMap.mp h
  obtain ⟨rest, hrest, rfl⟩ := Option.map_eq_some_iff.mp hgap
  exact (Text.gap?_shorter hrest).trans_le (qualified_suffix hg).length_le

/-- Actions stand behind the blanks after a name. -/
theorem exists_gap_of_alterHeads {f : Text × Text} (h : f ∈ alterHeads t) :
    ∃ rest, rest <:+ t ∧ Text.gap? rest = some f.2 := by
  rw [alterHeads_eq] at h
  obtain ⟨start, hstart, htarget⟩ := List.mem_flatMap.mp h
  obtain ⟨g, hg, hgap⟩ := List.mem_filterMap.mp htarget
  obtain ⟨rest, hrest, rfl⟩ := Option.map_eq_some_iff.mp hgap
  exact ⟨g.2, (qualified_suffix hg).trans (readsOn_nameStarts t start hstart), hrest⟩

theorem alterHeads_suffix {f : Text × Text} (h : f ∈ alterHeads t) : f.2 <:+ t := by
  obtain ⟨rest, hrest, hgap⟩ := exists_gap_of_alterHeads h
  exact (Text.gap?_suffix hgap).trans hrest

variable (hc : Text.isBlank c = false)

include hc

/-- In front of a character that is no blank the table and the actions are read as they are at the end
of the text there. -/
theorem sparing_target (u r : Text) : sparing (c :: r) (target (u ++ c :: r)) =
    (target u).map fun f => (f.1, f.2 ++ c :: r) := by
  have hgap : ∀ f : Text × Text, ∀ f' ∈ (Text.gap? f.2).map (unquote f.1, ·),
      f'.2.length < f.2.length := by
    intro f f' hf'
    obtain ⟨rest, hrest, rfl⟩ := Option.map_eq_some_iff.mp hf'
    exact Text.gap?_shorter hrest
  have hnext : ∀ f : Text × Text, (Text.gap? (f.2 ++ c :: r)).map (unquote f.1, ·) =
      ((Text.gap? f.2).map (unquote f.1, ·)).map fun f => (f.1, f.2 ++ c :: r) := by
    intro f
    rw [Text.stopsAt_gap? hc f.2 r, Option.map_map, Option.map_map]
    rfl
  have hfront : target u =
      (leavingBehind [] (qualified u)).filterMap fun f => (Text.gap? f.2).map (unquote f.1, ·) := by
    have hstep := sparing_filterMap hgap [] (qualified u)
    rwa [sparing_nil, sparing_nil] at hstep
  rw [hfront, target, sparing_filterMap hgap, leavingBehind_qualified, List.filterMap_map]
  simp only [Function.comp_def, hnext]
  rw [← List.map_filterMap, sparing_map]

/-- What is read of the head of a statement, short of a character that is no blank, is read of the text
in front of the character. -/
theorem sparing_alterHeads (u r : Text) : sparing (c :: r) (alterHeads (u ++ c :: r)) =
    (alterHeads u).map fun f => (f.1, f.2 ++ c :: r) := by
  have hpast : ∀ t : Text, t.length ≤ (c :: r).length → sparing (c :: r) (target t) = [] := by
    intro t ht
    refine List.filter_eq_nil_iff.mpr fun f hf => ?_
    have hshort := (target_shorter hf).trans_le ht
    simpa using hshort
  have hempty : ∀ t : Text, t.length ≤ ([] : Text).length → target t = [] := by
    intro t ht
    refine List.eq_nil_iff_forall_not_mem.mpr fun f hf => ?_
    exact absurd ((target_shorter hf).trans_le ht) (Nat.not_lt_zero _)
  calc sparing (c :: r) (alterHeads (u ++ c :: r))
      = (Text.leaving (c :: r) (nameStarts (u ++ c :: r))).flatMap
          fun t => sparing (c :: r) (target t) := by
        rw [alterHeads_eq, sparing_flatMap, Text.flatMap_leaving hpast]
    _ = (Text.leaving [] (nameStarts u)).flatMap
          fun t => (target t).map fun f => (f.1, f.2 ++ c :: r) := by
        rw [nearsighted_nameStarts u (c :: r), List.flatMap_map]
        exact List.flatMap_congr fun t _ => sparing_target hc t r
    _ = (alterHeads u).map fun f => (f.1, f.2 ++ c :: r) := by
        rw [← List.map_flatMap, Text.flatMap_leaving hempty, ← alterHeads_eq]

/-- The first reading of the head of a statement is the same with what follows and without it, unless
it goes on into what follows. -/
theorem head?_alterHeads_border {f : Text × Text}
    (h : (alterHeads (u ++ c :: r)).head? = some f) (hf : r.length < f.2.length) :
    ∃ actions, (alterHeads u).head? = some (f.1, actions) ∧ f.2 = actions ++ c :: r := by
  obtain ⟨heads, hlong⟩ := List.head?_eq_some_iff.mp h
  have hheads := sparing_alterHeads hc u r
  have hspared : (c :: r).length ≤ f.2.length := hf
  rw [hlong, sparing, List.filter_cons_of_pos (by simpa using hspared)] at hheads
  obtain ⟨g, rest, hshort, rfl, -⟩ := List.map_eq_cons_iff.mp hheads.symm
  exact ⟨g.2, by rw [hshort]; rfl, rfl⟩

/-- A last character that is no blank belongs to the actions. -/
theorem alterHeads_concat (u : Text) :
    alterHeads (u ++ [c]) = (alterHeads u).map fun f => (f.1, f.2 ++ [c]) := by
  rw [← sparing_alterHeads hc u []]
  refine (List.filter_eq_self.mpr fun f hf => ?_).symm
  obtain ⟨rest, hrest, hgap⟩ := exists_gap_of_alterHeads hf
  rcases List.suffix_concat_iff.mp hrest with rfl | ⟨w, rfl, -⟩
  · cases hgap
  · rw [Text.stopsAt_gap? hc w []] at hgap
    obtain ⟨left, -, hleft⟩ := Option.map_eq_some_iff.mp hgap
    simp [← hleft]

omit hc in
theorem untilSemicolon_le (t : Text) : (untilSemicolon t).2.length ≤ t.length := by
  fun_induction untilSemicolon t with
  | case1 => exact Nat.le_refl _
  | case2 t => exact Nat.le_succ _
  | case3 => exact Nat.le_refl _
  | case4 c t _ _ _ ih => exact ih.trans (Nat.le_succ _)

omit hc in
theorem untilSemicolon_start (t : Text) : (untilSemicolon t).1 <+: t := by
  fun_induction untilSemicolon t with
  | case1 => exact List.prefix_rfl
  | case2 t => exact List.nil_prefix
  | case3 => exact List.nil_prefix
  | case4 c t _ _ _ ih => exact List.prefix_cons_inj c |>.mpr ih

omit hc in
theorem untilSemicolon_cons {d : Char} (hd : d ≠ ';') (hlast : d = '\n' → t ≠ []) :
    untilSemicolon (d :: t) = (d :: (untilSemicolon t).1, (untilSemicolon t).2) := by
  rw [untilSemicolon]
  · exact fun h => hd h
  · rintro rfl rfl
    exact hlast rfl rfl

theorem untilSemicolon_mark (r : Text) : (untilSemicolon (c :: r)).2.length ≤ r.length := by
  by_cases hd : c = ';'
  · subst hd
    rfl
  · have hlast : c = '\n' → r ≠ [] := by
      rintro rfl
      cases hc
    rw [untilSemicolon_cons hd hlast]
    exact untilSemicolon_le r

/-- Actions that end in front of a character that is no blank end there whatever follows. -/
theorem untilSemicolon_border (h : r.length < (untilSemicolon (t ++ c :: r)).2.length) :
    untilSemicolon (t ++ c :: r) =
      ((untilSemicolon t).1, (untilSemicolon t).2 ++ c :: r) := by
  have hmark := untilSemicolon_mark hc r
  fun_induction untilSemicolon t with
  | case1 => exact absurd h (Nat.not_lt.mpr hmark)
  | case2 t => rfl
  | case3 =>
    rw [List.cons_append, List.nil_append, untilSemicolon_cons (by decide) (by simp)] at h
    exact absurd h (Nat.not_lt.mpr hmark)
  | case4 d t hd _ _ ih =>
    have hstep : untilSemicolon (d :: (t ++ c :: r)) = _ := untilSemicolon_cons hd (by simp)
    rw [List.cons_append, hstep] at h ⊢
    rw [ih h]

/-- A statement whose reading ends in front of a character that is no blank is the same with what
follows and without it. -/
theorem alteration?_border (h : ∀ f ∈ alteration? (u ++ c :: r), r.length < f.2.length) :
    alteration? (u ++ c :: r) = (alteration? u).map fun f => (f.1, f.2 ++ c :: r) := by
  unfold alteration? at h ⊢
  cases hlong : (alterHeads (u ++ c :: r)).head? with
  | none =>
    have hnone := sparing_alterHeads hc u r
    rw [List.head?_eq_none_iff.mp hlong] at hnone
    rw [List.map_eq_nil_iff.mp hnone.symm]
    rfl
  | some f =>
    rw [hlong] at h
    have hends : r.length < (untilSemicolon f.2).2.length := h _ rfl
    obtain ⟨actions, hshort, hactions⟩ :=
      head?_alterHeads_border hc hlong (hends.trans_le (untilSemicolon_le f.2))
    rw [hactions] at hends
    simp only [hshort, Option.map_some, hactions, untilSemicolon_border hc hends]

end Sql
end SchemaDiagram
