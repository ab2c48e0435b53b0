import SchemaDiagram.Proofs.Sql.Contents
import SchemaDiagram.Proofs.Sql.Interleaving
import SchemaDiagram.Proofs.Text.Words

/-!
Columns under other names. The searches for constraints and for the default start at the name of a
column, so two names give the same column where neither reads like a keyword that is searched for.
-/
namespace SchemaDiagram.Sql

variable {α β : Type} {c : Char} {n n₁ n₂ r t b d head name : Text} {k : String}
  {read go : Text → Option α} {other : Text → Option β} {skip : Text → Option Text}

/-- A name without quotes. -/
def IsBare (n : Text) : Prop := n ≠ [] ∧ ∀ c ∈ n, Text.isWord c = true

instance (n : Text) : Decidable (IsBare n) := @instDecidableAnd _ _ _ (List.decidableBAll _ n)

/-- No search for constraints or for the default finds its keyword in a name. -/
structure Silent (n : Text) : Prop where
  primary : hasWord "PRIMARY" (Text.upper n) = false
  notNull : hasWord "NOT" (Text.upper n) = false
  unique : hasWord "UNIQUE" (Text.upper n) = false
  references : Text.searchWord (Text.wholeKeyword? "REFERENCES") false n = none
  default : Text.search (Text.wholeKeyword? "DEFAULT") n = none

/-- A search goes on behind a name at whose places nothing is read. -/
theorem searchWord_behind (hmark : ∀ {c r}, Text.isWord c = false → read (c :: r) = none)
    (hr : Text.atWordEnd r = true) (hread : ∀ u, other u = none → read (u ++ r) = none)
    {inWord : Bool} (hn : Text.searchWord other inWord n = none) :
    Text.searchWord read inWord (n ++ r) = Text.searchWord read false r := by
  induction n generalizing inWord with
  | nil =>
    cases inWord with
    | false => rfl
    | true => exact searchWord_atWordEnd hmark hr
  | cons c n ih =>
    cases inWord with
    | true => exact ih hn
    | false =>
      obtain ⟨hc, hn⟩ := Option.or_eq_none_iff.mp hn
      have hnone := hread (c :: n) hc
      rw [List.cons_append] at hnone ⊢
      rw [Text.searchWord, if_neg Bool.false_ne_true, hnone, Option.none_or, ih hn]

theorem search_behind (hread : ∀ u, other u = none → read (u ++ r) = none)
    (hn : Text.search other n = none) : Text.search read (n ++ r) = Text.search read r := by
  induction n with
  | nil => rfl
  | cons c n ih =>
    obtain ⟨hc, hn⟩ := Option.or_eq_none_iff.mp hn
    have hnone := hread (c :: n) hc
    rw [List.cons_append] at hnone ⊢
    rw [search_cons hnone, ih hn]

/-- What a reader skips in front of a blank, or of nothing, it skips alone as well. -/
def EndsAtBlank (skip : Text → Option Text) : Prop :=
  ∀ u r, r.head?.all Text.isBlank = true → skip (u ++ r) = (skip u).map (· ++ r)

theorem endsAtBlank_of_stopsAt (h : ∀ c, Text.isBlank c = true → Text.StopsAt c skip) :
    EndsAtBlank skip := by
  intro u r hr
  cases r with
  | nil => simp
  | cons c r => exact h c (by simpa using hr) u r

theorem endsAtBlank_after? (hk : Text.Blankless k.toList) :
    EndsAtBlank (Text.after? k.toList) :=
  endsAtBlank_of_stopsAt fun _ hc => Text.stopsAt_after? (hk.not_mem hc)

theorem endsAtBlank_keyword? (hk : IsKeyword k.toList) : EndsAtBlank (Text.keyword? k) := by
  refine endsAtBlank_of_stopsAt fun c hc => Text.stopsAt_afterCapitals fun hm => ?_
  have hword := Text.isWord_of_capital (Text.isPlain_of_isUpper (hk.2 _ hm))
  rw [Text.isWord_of_isBlank hc] at hword
  cases hword

theorem atWordEnd_of_blank (hr : r.head?.all Text.isBlank = true) : Text.atWordEnd r = true := by
  cases r with
  | nil => rfl
  | cons c r => simp [Text.atWordEnd, Text.isWord_of_isBlank (by simpa using hr)]

theorem EndsAtBlank.word_eq_none (h : EndsAtBlank skip) (hr : r.head?.all Text.isBlank = true)
    (u : Text) (hu : (skip u).filter Text.atWordEnd = none) :
    (skip (u ++ r)).filter Text.atWordEnd = none := by
  rw [h u r hr]
  cases hs : skip u with
  | none => rfl
  | some v =>
    cases v with
    | nil => simp [hs, Text.atWordEnd] at hu
    | cons e v => simpa [hs, Text.atWordEnd] using hu

/-- In the middle of a word there is no gap, and at its end no keyword. -/
theorem EndsAtBlank.gap_eq_none (h : EndsAtBlank skip) (hr : r.head?.all Text.isBlank = true)
    (u : Text) (hu : (skip u).filter Text.atWordEnd = none) :
    (skip (u ++ r) >>= fun t => Text.gap? t >>= go) = none := by
  rw [h u r hr]
  cases hs : skip u with
  | none => rfl
  | some v =>
    cases v with
    | nil => simp [hs, Text.atWordEnd] at hu
    | cons e v =>
      have he : Text.isBlank e = false := by
        by_contra hblank
        simp [hs, Text.atWordEnd, Text.isWord_of_isBlank (by simpa using hblank)] at hu
      simp [Text.gap?, he]

theorem after?_mark {first : Text} (hk : IsKeyword first) (hc : Text.isWord c = false) :
    Text.after? first (c :: r) = none := by
  obtain ⟨hne, hupper⟩ := hk
  cases first with
  | nil => exact (hne rfl).elim
  | cons a first =>
    have ha := Text.isWord_of_isPlain (Text.isPlain_of_isUpper (hupper a List.mem_cons_self))
    refine (Text.after?_cons ..).trans (if_neg fun he => ?_)
    rw [← beq_iff_eq.mp he, ha] at hc
    cases hc

section

variable (hr : r.head?.all Text.isBlank = true)

include hr

theorem hasWord_behind (hk : IsKeyword k.toList) (hn : hasWord k n = false) :
    hasWord k (n ++ r) = hasWord k r := by
  have hskip := endsAtBlank_after? fun c hc => Text.isBlank_of_isPlain (hk.plain c hc)
  refine congrArg Option.isSome (searchWord_behind (fun hc => ?_) (atWordEnd_of_blank hr)
    (hskip.word_eq_none hr) (Option.not_isSome_iff_eq_none.mp (Bool.eq_false_iff.mp hn)))
  rw [after?_mark hk hc]
  rfl

theorem hasWords_behind (hk : IsKeyword k.toList) (hn : hasWord k n = false) (second : String) :
    hasWords k second (n ++ r) = hasWords k second r := by
  have hskip := endsAtBlank_after? fun c hc => Text.isBlank_of_isPlain (hk.plain c hc)
  refine congrArg Option.isSome (searchWord_behind (fun hc => ?_) (atWordEnd_of_blank hr)
    (hskip.gap_eq_none hr) (Option.not_isSome_iff_eq_none.mp (Bool.eq_false_iff.mp hn)))
  rw [after?_mark hk hc]
  rfl

theorem columnTarget?_behind
    (hn : Text.searchWord (Text.wholeKeyword? "REFERENCES") false n = none) :
    columnTarget? (n ++ r) = columnTarget? r := by
  have hk : IsKeyword "REFERENCES".toList := by decide
  have hskip := endsAtBlank_keyword? (k := "REFERENCES") hk
  rw [columnTarget?, columnTarget?, target_read?_eq]
  refine congrArg (Option.map _) (searchWord_behind (fun hc => ?_) (atWordEnd_of_blank hr)
    (hskip.gap_eq_none hr) hn)
  rw [afterCapitals_figure hk (isFigure_of_mark hc)]
  rfl

theorem defaultWord?_behind (hn : Text.search (Text.wholeKeyword? "DEFAULT") n = none) :
    defaultWord? (n ++ r) = defaultWord? r := by
  have hskip := endsAtBlank_keyword? (k := "DEFAULT") (by decide)
  rw [defaultWord?_eq, defaultWord?_eq]
  exact search_behind (hskip.gap_eq_none hr) hn

/-- A definition declares the same with and without a silent name in front of it. -/
theorem Silent.columnOf_behind (hn : Silent n) (name type : Text) :
    columnOf (n ++ r) name type = columnOf r name type := by
  have hupper : (Text.upper r).head?.all Text.isBlank = true := by
    cases r with
    | nil => rfl
    | cons c r =>
      have hc : Text.isBlank c = true := by simpa using hr
      simp [Text.upper, Text.upperChar_of_isBlank hc, hc]
  simp only [columnOf_eq, columnDefault?, Text.upper_append,
    hasWords_behind hupper (k := "PRIMARY") (by decide) hn.primary,
    hasWords_behind hupper (k := "NOT") (by decide) hn.notNull,
    hasWord_behind hupper (k := "UNIQUE") (by decide) hn.unique,
    columnTarget?_behind hr hn.references, defaultWord?_behind hr hn.default]

end

theorem searchWord_eq_none_of_plain (hn : Text.Plain n) (hk : IsKeyword k.toList)
    (hne : Text.upper n ≠ k.toList) : Text.searchWord (Text.wholeKeyword? k) false n = none := by
  have hread : Text.wholeKeyword? k (n ++ []) = none := by
    rw [Text.wholeKeyword?_append hk.plain hn rfl, if_neg hne]
  have hword := searchWord_word (fun hc => ?_) hn rfl hread
  · rwa [List.append_nil] at hword
  · rw [Text.wholeKeyword?, Text.keyword?, afterCapitals_figure hk (isFigure_of_mark hc)]
    rfl

/-- A plain name is silent that is none of the keywords in any letter case and does not end like
the one for the default. -/
theorem silent_of_plain (hn : Text.Plain n)
    (hword : ∀ k ∈ ["PRIMARY", "NOT", "UNIQUE", "REFERENCES"], Text.upper n ≠ k.toList)
    (hend : ¬ "DEFAULT".toList <:+ Text.upper n) : Silent n := by
  have hhas (k : String) (hk : IsKeyword k.toList) (hne : Text.upper n ≠ k.toList) :
      hasWord k (Text.upper n) = false := by
    rw [hasWord_upper hn.ascii, searchWord_eq_none_of_plain hn hk hne]
    rfl
  refine ⟨hhas _ (by decide) (hword _ (by simp)), hhas _ (by decide) (hword _ (by simp)),
    hhas _ (by decide) (hword _ (by simp)),
    searchWord_eq_none_of_plain hn (by decide) (hword _ (by simp)), ?_⟩
  clear hword hhas
  induction n with
  | nil => rfl
  | cons c n ih =>
    have hread := Text.wholeKeyword?_append (k := "DEFAULT") (r := []) (by decide) hn rfl
    have hne : Text.upper (c :: n) ≠ "DEFAULT".toList := fun he => hend (he ▸ List.suffix_rfl)
    rw [List.append_nil, if_neg hne] at hread
    obtain ⟨hc, hn⟩ := Text.plain_cons.mp hn
    rw [Text.upper_cons (Text.ascii_of_isPlain hc)] at hend
    rw [search_cons hread]
    exact ih hn fun hs => hend (hs.trans (List.suffix_cons _ _))

theorem trimEnd_behind (hn : Text.Blankless n) (r : Text) :
    Text.trimEnd (n ++ r) = n ++ Text.trimEnd r := by
  have hreverse : n.reverse.dropWhile Text.isBlank = n.reverse := by
    cases h : n.reverse with
    | nil => rfl
    | cons c t =>
      have hc := hn c (List.mem_reverse.mp (h ▸ List.mem_cons_self))
      exact List.dropWhile_cons_of_neg (by simp [hc])
  rw [Text.trimEnd, Text.skipBlanks, List.reverse_append, List.dropWhile_append, hreverse]
  split
  · next h => simp [Text.trimEnd, Text.skipBlanks, List.isEmpty_iff.mp h]
  · rw [List.reverse_append, List.reverse_reverse, Text.trimEnd, Text.skipBlanks]

theorem trimEnd_blank (d : Text) : (Text.trimEnd (' ' :: d)).head?.all Text.isBlank = true := by
  obtain ⟨blanks, -, h⟩ := Text.exists_trimEnd (' ' :: d)
  cases ht : Text.trimEnd (' ' :: d) with
  | nil => rfl
  | cons c t =>
    rw [ht] at h
    obtain ⟨rfl, -⟩ := List.cons.inj h
    rfl

theorem IsBare.blankless (hn : IsBare n) : Text.Blankless n := Text.blankless_of_isWord hn.2

theorem IsBare.trim_append (hn : IsBare n) (r : Text) :
    Text.trim (n ++ r) = n ++ Text.trimEnd r := by
  rw [← trimEnd_behind hn.blankless, Text.trim]
  obtain ⟨c, n, rfl⟩ := List.exists_cons_of_ne_nil hn.1
  rw [List.cons_append, Text.skipBlanks_cons (hn.blankless c List.mem_cons_self)]

theorem IsBare.over (hn : IsBare n) : Scan.Over {} (n ++ [' ']) {} := by
  refine Scan.over_still rfl (Int.le_refl 0) ?_ ?_
  · simp only [List.forall_mem_append, List.forall_mem_singleton]
    exact ⟨fun c hc => Scan.isStill_of_isWord (hn.2 c hc), rfl⟩
  · intro hcomma
    rcases List.mem_append.mp hcomma with hcomma | hcomma
    · exact absurd (hn.2 ',' hcomma) (by decide)
    · exact absurd hcomma (by decide)

theorem IsBare.unquote (hn : IsBare n) : unquote n = n := by
  have htrim := hn.trim_append []
  rw [List.append_nil, show Text.trimEnd [] = [] from rfl, List.append_nil] at htrim
  simp only [Sql.unquote, htrim]
  split
  · next c d t =>
    rw [closer?_of_isWord (hn.2 c List.mem_cons_self), if_neg (by simp)]
  · rfl

theorem IsBare.name?_append (hn : IsBare n) (hr : Text.atWordEnd r = true) :
    name? (n ++ r) = some (n, r) := by
  have hrest : r.takeWhile Text.isWord = [] ∧ r.dropWhile Text.isWord = r := by
    cases r with
    | nil => exact ⟨rfl, rfl⟩
    | cons c r =>
      have hc : ¬ Text.isWord c = true := by simpa [Text.atWordEnd] using hr
      exact ⟨List.takeWhile_cons_of_neg hc, List.dropWhile_cons_of_neg hc⟩
  have hword : Text.word (n ++ r) = (n, r) := by
    rw [Text.word, List.takeWhile_append_of_pos hn.2, List.dropWhile_append_of_pos hn.2, hrest.1,
      hrest.2, List.append_nil]
  obtain ⟨c, n, rfl⟩ := List.exists_cons_of_ne_nil hn.1
  rw [List.cons_append] at hword ⊢
  simp only [name?, closer?_of_isWord (hn.2 c List.mem_cons_self), Text.word?, hword]

/-- What a definition declares stands behind a bare name and blanks. -/
theorem IsBare.definitionHead?_append (hn : IsBare n) (hr : r.head?.all Text.isBlank = true) :
    definitionHead? (n ++ r) = some (n, Text.skipBlanks r) := by
  rw [definitionHead?, hn.name?_append (atWordEnd_of_blank hr)]
  simp only [Option.bind_eq_bind, Option.bind_some, hn.unquote]
  cases r with
  | nil => rfl
  | cons c r =>
    have hc : Text.isBlank c = true := by simpa using hr
    simp only [Text.gap?, hc, if_true, Option.map_some, Text.skipBlanks,
      List.dropWhile_cons_of_pos hc]

/-- The type that a definition declares behind its name. -/
def typeBehind (r : Text) : Text :=
  if (columnType (Text.skipBlanks r)).isEmpty then unknownType else columnType (Text.skipBlanks r)

/-- All that a definition declares but the name stands behind a bare, silent name. -/
theorem IsBare.column?_append (hn : IsBare n) (hs : Silent n)
    (hr : r.head?.all Text.isBlank = true) :
    column? (n ++ r) = some (columnOf r n (typeBehind r)) := by
  rw [column?, hn.definitionHead?_append hr, ← hs.columnOf_behind hr]
  rfl

/-- What stands at the front of a text in one piece is in one piece itself. -/
theorem Scan.pieces_prefix {s : Scan} (h : s.pieces (t ++ r) = [t ++ r]) : s.pieces t = [t] := by
  induction t generalizing s with
  | nil => rfl
  | cons c t ih =>
    rw [List.cons_append, pieces] at h
    split at h
    · simp [pieces_ne_nil] at h
    · next hcut =>
      obtain ⟨p, ps, hp⟩ := List.exists_cons_of_ne_nil (pieces_ne_nil (s.next c) (t ++ r))
      rw [hp, Text.consFirst] at h
      obtain ⟨hfirst, rfl⟩ := List.cons.inj h
      rw [pieces, if_neg hcut, ih (hp.trans (by rw [(List.cons.inj hfirst).2]))]
      rfl

theorem IsBare.parts_append (hn : IsBare n) (hb : Scan.pieces {} b = [b]) :
    parts (n ++ ' ' :: b) = [n ++ Text.trimEnd (' ' :: b)] := by
  have hover := hn.over
  have hpieces := Scan.pieces_append hover.pieces_eq (hover.after_eq ▸ hb)
  obtain ⟨c, w, rfl⟩ := List.exists_cons_of_ne_nil hn.1
  have hfilled : Text.allBlank (c :: w ++ ' ' :: b) = false := by
    simp [Text.allBlank, hn.blankless c List.mem_cons_self]
  rw [List.append_assoc, List.singleton_append] at hpieces
  rw [parts, hpieces, partsOf, if_neg (Bool.eq_false_iff.mp hfilled), hn.trim_append]

/-- A name in front of one definition makes one part of a body, the same behind each name. -/
theorem exists_part (hhead : createHead? (head ++ ['(']) = some (name, []))
    (hd : separators d = []) (hn : IsBare n) {table : Table}
    (h : createTable (statementOf head [n ++ ' ' :: d] []) = .ok (some table)) :
    ∃ r, r.head?.all Text.isBlank = true ∧ ∀ n, IsBare n →
      createTable (statementOf head [n ++ ' ' :: d] []) = .ok (some (tableOf name [n ++ r])) := by
  have hstart : ({ depth := 1 } : Scan) = ({} : Scan).within := rfl
  have hread (p : Text) : createHead? (statementOf head [p] []) = some (name, p ++ [')']) := by
    have hlonger := createHead?_append hhead (p ++ [')'])
    rwa [List.append_assoc, List.singleton_append, List.nil_append] at hlonger
  have hbody {n : Text} (hn : IsBare n) : Scan.body? { depth := 1 } (n ++ ' ' :: (d ++ [')'])) =
      (Scan.body? { depth := 1 } (d ++ [')'])).map fun found => (n ++ ' ' :: found.1, found.2) := by
    have hover := hn.over.body? (r := d ++ [')'])
    simpa [hstart] using hover
  cases hinner : Scan.body? { depth := 1 } (d ++ [')']) with
  | none =>
    simp only [createTable, hread, List.append_assoc, List.cons_append, hbody hn, hinner,
      Option.map_none] at h
    cases h
  | some found =>
    obtain ⟨b, rest⟩ := found
    have hb : Scan.pieces {} b = [b] := by
      obtain ⟨hclosed, -⟩ := (Scan.body?_within_iff (s := {}) (Int.le_refl 0)).mp hinner
      have hlength := congrArg List.length hclosed
      have hfront : b <+: d ++ [')'] := hclosed ▸ List.prefix_append b _
      have hprefix : b <+: d := by
        refine List.prefix_of_prefix_length_le hfront (List.prefix_append d _) ?_
        simp only [List.length_append, List.length_cons, List.length_nil] at hlength
        omega
      obtain ⟨u, rfl⟩ := hprefix
      have hwhole : Scan.pieces {} (b ++ u) = [b ++ u] := by
        rw [pieces_eq_cut, hd]
        rfl
      exact Scan.pieces_prefix hwhole
    refine ⟨Text.trimEnd (' ' :: b), trimEnd_blank b, fun n hn => ?_⟩
    simp only [createTable, hread, List.append_assoc, List.cons_append, hbody hn, hinner,
      Option.map_some, hn.parts_append hb]

/-- No part changes a table without columns. -/
theorem applyPart_of_empty {t : Table} (ht : t.columns = []) (p : Text) : applyPart t p = t := by
  have hchange (n : Text) (f : Column → Column) : t.changeColumn n f = t := by
    obtain ⟨name, columns⟩ := t
    obtain rfl : columns = [] := ht
    rfl
  have hkeeps {α : Type} (name : α → Text) (change : α → Column → Column) (as : List α) :
      as.foldl (fun t a => t.changeColumn (name a) (change a)) t = t :=
    Table.foldl_changeColumn (P := (· = t)) name change as
      (fun u a hu => hu ▸ hchange (name a) (change a)) rfl
  unfold applyPart
  split
  · exact hkeeps id (fun _ => Column.markPrimary) _
  · split
    · next key _ => exact hkeeps Prod.fst (fun pair => Column.pointAt key.refTable pair.2) _
    · rfl
  · unfold Table.applyUnique
    split
    · exact hchange _ _
    · rfl
  all_goals rfl

/-- A table of one part has a column where that part declares one. -/
theorem column?_of_tableOf {p : Text} {c : Column} (h : (tableOf name [p]).columns = [c]) :
    column? p = some c := by
  have htable : tableOf name [p] = applyPart (declarePart { name } p) p := rfl
  by_cases hkind : partKind p = .column
  · rw [htable, applyPart, hkind, declarePart, hkind] at h
    cases hcolumn : column? p with
    | none => simp [hcolumn] at h
    | some d =>
      rw [hcolumn] at h
      obtain rfl : d = c := by simpa [Table.declare, Table.column?] using h
      rfl
  · rw [htable, declarePart_of_ne hkind, applyPart_of_empty rfl] at h
    cases h

/-- One definition behind two names that are silent declares columns that differ in their names. -/
theorem createTable_renamed (hhead : createHead? (head ++ ['(']) = some (name, []))
    (hd : separators d = []) (hn₁ : IsBare n₁) (hn₂ : IsBare n₂) (hs₁ : Silent n₁)
    (hs₂ : Silent n₂) {t₁ t₂ : Table} {c₁ c₂ : Column}
    (h₁ : createTable (statementOf head [n₁ ++ ' ' :: d] []) = .ok (some t₁))
    (h₂ : createTable (statementOf head [n₂ ++ ' ' :: d] []) = .ok (some t₂))
    (hc₁ : t₁.columns = [c₁]) (hc₂ : t₂.columns = [c₂]) :
    c₁.name = n₁ ∧ c₂ = { c₁ with name := n₂ } := by
  obtain ⟨r, hr, htable⟩ := exists_part hhead hd hn₁ h₁
  have hcolumn {n : Text} {t : Table} {c : Column} (hn : IsBare n) (hs : Silent n)
      (h : createTable (statementOf head [n ++ ' ' :: d] []) = .ok (some t))
      (hc : t.columns = [c]) : c = columnOf r n (typeBehind r) := by
    obtain rfl : tableOf name [n ++ r] = t := by
      simpa using (htable n hn).symm.trans h
    exact Option.some.inj ((column?_of_tableOf hc).symm.trans (hn.column?_append hs hr))
  rw [hcolumn hn₁ hs₁ h₁ hc₁, hcolumn hn₂ hs₂ h₂ hc₂]
  simp only [columnOf_eq, and_self]

/-- A keyword in the middle of a name, or at its front, leaves the column as it is. -/
theorem createTable_renamed_member :
    let statement := fun n : String => statementOf "CREATE TABLE member".toList
      [n.toList ++ ' ' :: "INT NOT NULL DEFAULT 3 REFERENCES club (id)".toList] []
    ∃ t₁ t₂ c₁ c₂, createTable (statement "club") = .ok (some t₁) ∧
      createTable (statement "unique_club") = .ok (some t₂) ∧ t₁.columns = [c₁] ∧
      t₂.columns = [c₂] ∧ c₁.name = "club".toList ∧
      c₂ = { c₁ with name := "unique_club".toList } := by
  intro statement
  let club : Column := {
    name := "club".toList, type := "INT".toList, nullable := false
    defaultValue := some "3".toList, isForeign := true
    reference := some ⟨"club".toList, "id".toList⟩ }
  let uniqueClub : Column := { club with name := "unique_club".toList }
  have hhead : createHead? ("CREATE TABLE member".toList ++ ['(']) =
      some ("member".toList, []) := by
    decide +kernel
  have hclub : createTable (statement "club") = .ok (some ⟨"member".toList, [club]⟩) := by
    decide +kernel
  have huniqueClub : createTable (statement "unique_club") =
      .ok (some ⟨"member".toList, [uniqueClub]⟩) := by
    decide +kernel
  have hsilent : Silent "club".toList := silent_of_plain (by decide) (by decide) (by decide)
  have hsilent' : Silent "unique_club".toList :=
    silent_of_plain (by decide) (by decide) (by decide)
  exact ⟨_, _, club, uniqueClub, hclub, huniqueClub, rfl, rfl,
    createTable_renamed hhead (by decide +kernel)
      (by decide) (by decide) hsilent hsilent' hclub huniqueClub rfl rfl⟩

/-- A name that ends like the keyword for the default gives the column a default. -/
theorem createTable_renamed_default :
    ¬∀ (d n₁ n₂ : Text) (t₁ t₂ : Table) (c₁ c₂ : Column), IsBare n₁ → IsBare n₂ →
      createTable ("CREATE TABLE t (".toList ++ n₁ ++ ' ' :: d ++ [')']) = .ok (some t₁) →
      createTable ("CREATE TABLE t (".toList ++ n₂ ++ ' ' :: d ++ [')']) = .ok (some t₂) →
      t₁.columns = [c₁] → t₂.columns = [c₂] → c₁.name = n₁ → c₂.name = n₂ →
      c₂ = { c₁ with name := n₂ } := by
  intro h
  let flag : Column := { name := "flag".toList, type := "INT".toList }
  let default : Column := {
    name := "is_default".toList, type := "INT".toList, defaultValue := some "INT".toList }
  have hsame := h "INT".toList "flag".toList "is_default".toList ⟨"t".toList, [flag]⟩
    ⟨"t".toList, [default]⟩ flag default (by decide +kernel) (by decide +kernel) (by decide +kernel)
    (by decide +kernel) rfl rfl rfl rfl
  exact absurd hsame (by decide +kernel)

end SchemaDiagram.Sql
