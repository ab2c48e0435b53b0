import SchemaDiagram.Proofs.Sql.Interleaving
import SchemaDiagram.Proofs.Sql.Moving
import SchemaDiagram.Proofs.Text.Words

/-!
Keys on lines of their own. The columns of a key stand in a list, each bare or in quotes and with or
without a word for its order, and the line marks the columns whose names are read off that list.
-/
namespace SchemaDiagram

open Sql

namespace Table

variable {t : Table} {change : Column → Column}

/-- Where no two names agree in lower case, the first column of a name is the only one. -/
theorem changeColumn_columns (hn : (t.columns.map fun c => Text.lower c.name).Nodup) (n : Text)
    (change : Column → Column) : (t.changeColumn n change).columns =
      t.columns.map fun c => if sameName c.name n then change c else c := by
  refine List.ext_getElem? fun j => ?_
  rw [changeColumn_getElem?, List.getElem?_map]
  cases hc : t.columns[j]? with
  | none => simp
  | some c =>
    have hmeans : t.position? n = some j ↔ sameName c.name n = true := by
      rw [position?_eq_some_iff]
      constructor
      · rintro ⟨⟨d, hd, hsame⟩, -⟩
        obtain rfl := Option.some.inj (hc.symm.trans hd)
        simpa [sameName] using hsame
      · intro hsame
        have hsame : Text.lower c.name = Text.lower n := by simpa [sameName] using hsame
        refine ⟨⟨c, hc, hsame⟩, fun k hk d hd hother => ?_⟩
        have hj := (List.getElem?_eq_some_iff.mp hc).1
        refine List.nodup_iff_getElem?_ne_getElem?.mp hn k j hk (by simpa using hj) ?_
        simp [hc, hd, hsame, hother]
    simp only [hmeans, Option.map_some]
    split <;> rfl

theorem foldl_changeColumn_columns (hn : (t.columns.map fun c => Text.lower c.name).Nodup)
    (hname : KeepsName change) (htwice : ∀ c, change (change c) = change c) (names : List Text) :
    (names.foldl (fun t n => t.changeColumn n change) t).columns =
      t.columns.map fun c => if names.any (sameName c.name) then change c else c := by
  induction names generalizing t with
  | nil => simp
  | cons n names ih =>
    have hcolumns := changeColumn_columns hn n change
    have hkeeps (c : Column) : (if sameName c.name n then change c else c).name = c.name := by
      split
      · exact hname c
      · rfl
    have hn' : ((t.changeColumn n change).columns.map fun c => Text.lower c.name).Nodup := by
      rw [hcolumns, List.map_map]
      simpa only [Function.comp_def, hkeeps] using hn
    rw [List.foldl_cons, ih hn', hcolumns, List.map_map]
    refine List.map_congr_left fun c _ => ?_
    simp only [Function.comp_apply, hkeeps, List.any_cons]
    by_cases h : sameName c.name n = true <;> simp [h, htwice]

end Table

namespace Sql

variable {c : Char} {t p n : Text}

theorem trim_of_closes (hc : Text.isBlank c = false) (h : Closes (c :: t)) :
    Text.trim (c :: t) = c :: t := by
  have htrim : Text.trimEnd (c :: t ++ []) = c :: t := h.trimEnd rfl
  rw [List.append_nil] at htrim
  rw [Text.trim, Text.skipBlanks_cons hc, htrim]

/-- A text that does not end with the closer of its first character is no name in quotes. -/
theorem unquote_of_last {e : Char} (h : closer? c ≠ some e) (hc : Text.isBlank c = false)
    (he : Text.isBlank e = false) : unquote (c :: (t ++ [e])) = c :: (t ++ [e]) := by
  have htrim : Text.trim (c :: (t ++ [e])) = c :: (t ++ [e]) := Text.trim_of_ends hc he
  simp only [unquote, htrim]
  split
  · next d u heq =>
    obtain ⟨rfl, hrest⟩ := List.cons.inj heq
    simp only [← hrest, List.getLast_concat, h, if_false]
  · rfl

theorem lower_cons (hc : c.toNat < 128) (t : Text) : ∃ u, Text.lower (c :: t) = c.toLower :: u := by
  have hsigma : c ≠ '\u03A3' := by
    rintro rfl
    exact absurd hc (by decide)
  refine ⟨Text.lowerAfter (if Text.isCaseless c then false else Text.isCased c) t, ?_⟩
  rw [Text.lower, Text.lowerAfter]
  simp only [hsigma, if_false, Text.lowerChar, show c.toNat < 0x80 from hc, if_true,
    List.singleton_append]

/-- A plain name is never the same as one that keeps its quotes. -/
theorem sameName_opener (hn : Text.Plain n) (q : Quotes) (t : Text) :
    sameName n (q.opener :: t) = false := by
  obtain ⟨u, hu⟩ := lower_cons (c := q.opener) (by cases q <;> decide) t
  rw [sameName, hu]
  cases n with
  | nil => rfl
  | cons c n =>
    obtain ⟨hc, -⟩ := Text.plain_cons.mp hn
    obtain ⟨v, hv⟩ := lower_cons (Text.ascii_of_isPlain hc) n
    have hne : c.toLower ≠ q.opener.toLower := by
      cases q <;> exact Text.isPlain_induction hc (by decide)
    rw [hv]
    simp [hne]

theorem Scan.Over.depth_nonneg {s s' : Scan} (h : Scan.Over s t s') (hs : 0 ≤ s.depth) (k : Nat) :
    0 ≤ (s.after (t.take k)).depth := by
  induction h generalizing k with
  | nil => simpa [Scan.after] using hs
  | cons hd _ _ ih =>
    cases k with
    | zero => exact hs
    | succ k => exact ih hd k

/-- A text that a scan goes over makes a part of its own. -/
theorem isBalanced_of_over (h : Scan.Over {} p {}) (ht : IsTrim p) : IsBalanced p := by
  have hplaced {k : Nat} (hk : k ≤ p.length) : ({} : Scan).after (p.take k) = Scan.placed p 0 k :=
    listScan_eq_placed hk
  have hend : Scan.placed p 0 p.length = {} := by
    rw [← hplaced (Nat.le_refl _), List.take_length, h.after_eq]
  have hcut := (pieces_eq_cut p).symm.trans h.pieces_eq
  refine ⟨⟨ht.ne_nil, ht.trim, congrArg Scan.quote hend, congrArg Scan.depth hend, ?_⟩,
    fun k hk => ?_⟩
  · cases hs : separators p with
    | nil => rfl
    | cons i cuts =>
      rw [hs, cut] at hcut
      have hlength := congrArg List.length hcut
      cases cuts <;> simp [cut] at hlength
  · have hdepth := h.depth_nonneg (Int.le_refl 0) k
    rwa [hplaced hk] at hdepth

/-- A column in the list of a key: its name, the quotes around it and the word for its order. -/
structure KeyItem where
  quotes : Option Quotes
  name : Text
  order : Option Text
  nonempty : name ≠ []
  plain : Text.Plain name
  order_plain : ∀ w ∈ order, w ≠ [] ∧ Text.Plain w

namespace KeyItem

variable {i : KeyItem} {d : Int}

/-- The name as it is written. -/
def spelling (i : KeyItem) : Text :=
  match i.quotes with
  | some q => q.around i.name
  | none => i.name

def orderWords (i : KeyItem) : Text :=
  match i.order with
  | some w => ' ' :: w
  | none => []

def print (i : KeyItem) : Text := i.spelling ++ i.orderWords

/-- An order is told apart from a bare name, but not from one in quotes. -/
def isRead (i : KeyItem) : Bool := i.quotes.isNone || i.order.isNone

/-- The name that is read off an item. -/
def read (i : KeyItem) : Text := if i.isRead then i.name else i.print

/-- The item lists the column of a name. -/
def lists (i : KeyItem) (n : Text) : Bool := i.isRead && sameName n i.name

theorem closes_print (i : KeyItem) : Closes i.print := by
  have hspelling : Closes i.spelling := by
    unfold spelling
    split
    · next q _ => exact ⟨q.opener :: i.name, q.closer, rfl, q.isBlank_closer⟩
    · exact closes_plain i.nonempty i.plain
  refine hspelling.append ?_
  unfold orderWords
  split
  · next w hw =>
    obtain ⟨hne, hplain⟩ := i.order_plain w hw
    exact Or.inr ((closes_plain hne hplain).after [' '])
  · exact Or.inl rfl

theorem exists_print (i : KeyItem) : ∃ c t, i.print = c :: t ∧ Text.isBlank c = false := by
  unfold print spelling
  split
  · next q _ => exact ⟨q.opener, _, rfl, q.isBlank_opener⟩
  · obtain ⟨c, t, h⟩ := List.exists_cons_of_ne_nil i.nonempty
    refine ⟨c, t ++ i.orderWords, by rw [h, List.cons_append], ?_⟩
    exact Text.isBlank_of_isPlain (i.plain c (h ▸ List.mem_cons_self))

theorem not_mem_print (hc : Text.isPlain c = false) (hq : ∀ q : Quotes, c ≠ q.opener ∧ c ≠ q.closer)
    (hblank : c ≠ ' ') (i : KeyItem) : c ∉ i.print := by
  have hspelling : c ∉ i.spelling := by
    unfold spelling
    split
    · next q _ => simp [Quotes.around, i.plain.not_mem hc, hq q]
    · exact i.plain.not_mem hc
  have horder : c ∉ i.orderWords := by
    unfold orderWords
    split
    · next w hw => simp [hblank, (i.order_plain w hw).2.not_mem hc]
    · simp
  exact fun h => (List.mem_append.mp h).elim hspelling horder

theorem over_print (hd : 0 ≤ d) (i : KeyItem) :
    Scan.Over (Scan.level d) i.print (Scan.level d) := by
  have hspelling : Scan.Over (Scan.level d) i.spelling (Scan.level d) := by
    unfold spelling
    split
    · next q _ => exact Scan.over_around q hd i.plain
    · exact Scan.over_plain rfl hd i.plain
  refine hspelling.append ?_
  unfold orderWords
  split
  · next w hw =>
    have hblank : Scan.Over (Scan.level d) [' '] (Scan.level d) :=
      Scan.over_mark rfl hd rfl (by decide)
    exact hblank.append (Scan.over_plain rfl hd (i.order_plain w hw).2)
  · exact Scan.Over.nil _

theorem listedName_print (i : KeyItem) : listedName i.print = i.read := by
  obtain ⟨quotes, name, order, hne, hplain, horder⟩ := i
  cases quotes with
  | none =>
    obtain ⟨c, t, rfl⟩ := List.exists_cons_of_ne_nil hne
    have hclose : closer? c = none :=
      closer?_of_isWord (Text.isWord_of_isPlain (hplain c List.mem_cons_self))
    have hblankless : Text.Blankless (c :: t) := fun d hd => Text.isBlank_of_isPlain (hplain d hd)
    have hword : Text.firstWord (c :: t ++ orderWords ⟨none, c :: t, order, hne, hplain, horder⟩) =
        c :: t := Text.takeWhile_blankless hblankless (by cases order <;> rfl)
    exact (if_neg (by simp [hclose])).trans hword
  | some q =>
    have hopen : (closer? q.opener).isSome = true := by rw [q.closer?_opener, Option.isSome_some]
    refine (if_pos hopen).trans ?_
    cases order with
    | none =>
      change unquote (q.around name ++ []) = name
      rw [List.append_nil, q.unquote_around]
    | some w =>
      obtain ⟨hw, hwplain⟩ := horder w rfl
      have hlast := hwplain _ (List.getLast_mem hw)
      have hprint : q.around name ++ ' ' :: w =
          q.opener :: (name ++ q.closer :: ' ' :: w.dropLast ++ [w.getLast hw]) := by
        rw [List.append_assoc, List.cons_append, List.cons_append,
          List.dropLast_concat_getLast hw, q.around_append]
      have hne : closer? q.opener ≠ some (w.getLast hw) := by
        rw [q.closer?_opener]
        exact fun he => Text.ne_of_isPlain hlast q.isPlain_closer (Option.some.inj he).symm
      change unquote (q.around name ++ ' ' :: w) = q.around name ++ ' ' :: w
      rw [hprint, unquote_of_last hne q.isBlank_opener (Text.isBlank_of_isPlain hlast)]

theorem listedNames_print (items : List KeyItem) :
    listedNames (Text.join [',', ' '] (items.map print)) = items.map read := by
  have hitems : ∀ item ∈ items.map print, item ≠ [] ∧ ',' ∉ item ∧ Text.trim item = item := by
    intro item hm
    obtain ⟨i, -, rfl⟩ := List.mem_map.mp hm
    obtain ⟨c, t, hprint, hc⟩ := i.exists_print
    have hcloses := i.closes_print
    rw [hprint] at hcloses ⊢
    refine ⟨List.cons_ne_nil c t, ?_, trim_of_closes hc hcloses⟩
    rw [← hprint]
    exact not_mem_print (by decide) (by intro q; cases q <;> decide) (by decide) i
  rw [listedNames_join hitems, List.map_map]
  exact List.map_congr_left fun i _ => i.listedName_print

/-- No column of a plain name is meant by an item that is not read. -/
theorem sameName_read (hn : Text.Plain n) (i : KeyItem) : sameName n i.read = i.lists n := by
  unfold read lists
  cases hread : i.isRead with
  | true => rfl
  | false =>
    obtain ⟨q, hq⟩ : ∃ q, i.quotes = some q := by
      rw [← Option.isSome_iff_exists, ← Option.not_isNone]
      simp_all [isRead]
    have hprint : i.print = q.opener :: (i.name ++ q.closer :: i.orderWords) := by
      rw [print, spelling, hq]
      exact q.around_append _ _
    rw [if_neg Bool.false_ne_true, Bool.false_and, hprint]
    exact sameName_opener hn q _

end KeyItem

inductive KeyKind where
  | primary
  | unique
deriving DecidableEq

namespace KeyKind

/-- The words in front of the list. -/
def words : KeyKind → Text
  | primary => "PRIMARY KEY ".toList
  | unique => "UNIQUE ".toList

def change : KeyKind → Column → Column
  | primary => Column.markPrimary
  | unique => Column.markUnique

theorem unhindered_change (k : KeyKind) : Unhindered k.change := by
  cases k <;> exact ⟨fun _ => rfl, fun _ => rfl, fun _ => rfl⟩

end KeyKind

/-- A key on a line of its own. -/
structure KeyLine where
  kind : KeyKind
  first : KeyItem
  rest : List KeyItem

namespace KeyLine

variable {l : KeyLine} {name head : Text} {before after : List Text}

def items (l : KeyLine) : List KeyItem := l.first :: l.rest

def list (l : KeyLine) : Text := Text.join [',', ' '] (l.items.map KeyItem.print)

def print (l : KeyLine) : Text := l.kind.words ++ '(' :: (l.list ++ [')'])

/-- The line marks the column of a name: each one that is listed, or the only one. -/
def marks (l : KeyLine) (n : Text) : Bool :=
  match l.kind with
  | .primary => l.items.any (·.lists n)
  | .unique => l.rest.isEmpty && l.first.lists n

def apply (l : KeyLine) (t : Table) : Table :=
  { t with columns := t.columns.map fun c => if l.marks c.name then l.kind.change c else c }

/-- The names whose columns are changed. -/
def marked (l : KeyLine) : List Text :=
  match l.kind with
  | .primary => l.items.map KeyItem.read
  | .unique => if l.rest.isEmpty then [l.first.read] else []

theorem partKind_print (l : KeyLine) : partKind l.print =
    match l.kind with
    | .primary => .primaryKey
    | .unique => .unique := by
  obtain ⟨kind, first, rest⟩ := l
  cases kind <;> rfl

theorem list_ne_nil (l : KeyLine) : l.list ≠ [] := by
  obtain ⟨t, ht⟩ := Text.exists_join [',', ' '] l.first.print (l.rest.map KeyItem.print)
  obtain ⟨c, u, hprint, -⟩ := l.first.exists_print
  intro hnil
  have hcons := ht.symm.trans hnil
  rw [hprint] at hcons
  cases hcons

theorem firstList_print (l : KeyLine) : firstList l.print = l.items.map KeyItem.read := by
  have hopen : '(' ∉ l.kind.words := by cases l.kind <;> decide
  have hclose : ')' ∉ l.list := by
    refine Text.not_mem_join (by decide) fun item hm => ?_
    obtain ⟨i, -, rfl⟩ := List.mem_map.mp hm
    exact KeyItem.not_mem_print (by decide) (by intro q; cases q <;> decide) (by decide) i
  rw [print, firstList_behind hopen, firstList_of_not_mem l.list_ne_nil hclose, list,
    KeyItem.listedNames_print]

theorem applyPart_print (l : KeyLine) (t : Table) :
    applyPart t l.print = l.marked.foldl (fun t n => t.changeColumn n l.kind.change) t := by
  rw [applyPart, partKind_print, firstList_print]
  obtain ⟨kind, first, rest⟩ := l
  cases kind with
  | primary => rfl
  | unique => cases rest <;> rfl

theorem isBalanced_print (l : KeyLine) : IsBalanced l.print := by
  have hwords : Scan.Over {} l.kind.words {} :=
    Scan.over_still rfl (Int.le_refl 0) (List.all_eq_true.mp (by cases l.kind <;> decide))
      fun h => absurd h (by cases l.kind <;> decide)
  have hgap : Scan.Over (Scan.level 1) [',', ' '] (Scan.level 1) :=
    Scan.over_still rfl (by decide) (List.all_eq_true.mp (by decide)) fun _ => rfl
  have hlist : Scan.Over (Scan.level 1) l.list (Scan.level 1) := by
    refine Scan.over_join hgap fun item hm => ?_
    obtain ⟨i, -, rfl⟩ := List.mem_map.mp hm
    exact i.over_print (by decide)
  have hcloses : Closes l.print := ⟨l.kind.words ++ '(' :: l.list, ')', by simp [print], by decide⟩
  refine isBalanced_of_over (hwords.append (Scan.over_parentheses (Int.le_refl 0) hlist)) ?_
  obtain ⟨kind, first, rest⟩ := l
  cases kind <;> exact hcloses.isTrim (by decide) (List.cons_ne_nil _ _)

theorem any_marked {n : Text} (hn : Text.Plain n) (l : KeyLine) :
    l.marked.any (sameName n) = l.marks n := by
  have hread : sameName n ∘ KeyItem.read = (·.lists n) := funext fun i => i.sameName_read hn
  obtain ⟨kind, first, rest⟩ := l
  cases kind with
  | primary => rw [marked, marks, List.any_map, hread]
  | unique =>
    cases rest with
    | nil => simpa [marked, marks] using first.sameName_read hn
    | cons => rfl

/-- The marks of a line go before later lines as well as after them. -/
theorem foldl_applyPart_marked (l : KeyLine) (names ps : List Text) (t : Table) :
    ps.foldl applyPart (names.foldl (fun t n => t.changeColumn n l.kind.change) t) =
      names.foldl (fun t n => t.changeColumn n l.kind.change) (ps.foldl applyPart t) := by
  have hpoint (table column : Text) (c : Column) :
      (l.kind.change c).pointAt table column = l.kind.change (c.pointAt table column) := by
    cases l.kind <;> rfl
  induction names generalizing t with
  | nil => rfl
  | cons n names ih =>
    rw [List.foldl_cons, ih, foldl_applyPart_changeColumn l.kind.unhindered_change
      (fun _ _ _ => hpoint), List.foldl_cons]

/-- Wherever the line stands, it marks the columns of the table that there is without it. -/
theorem tableOf_print (l : KeyLine)
    (hplain : ∀ c ∈ (tableOf name (before ++ after)).columns, Text.Plain c.name) :
    tableOf name (before ++ l.print :: after) = l.apply (tableOf name (before ++ after)) := by
  have hkind : partKind l.print ≠ .column := by
    rw [partKind_print]
    cases l.kind <;> decide
  have hmarked : tableOf name (before ++ l.print :: after) =
      l.marked.foldl (fun t n => t.changeColumn n l.kind.change)
        (tableOf name (before ++ after)) := by
    simp only [tableOf, List.foldl_append, List.foldl_cons, declarePart_of_ne hkind,
      applyPart_print, foldl_applyPart_marked]
  have htwice (c : Column) : l.kind.change (l.kind.change c) = l.kind.change c := by
    cases l.kind <;> rfl
  rw [hmarked]
  refine Table.eq_of_columns ?_ ?_
  · exact Table.foldl_changeColumn (P := fun t => t.name = (tableOf name (before ++ after)).name) id
      (fun _ => l.kind.change) _ (fun _ _ ht => Table.changeColumn_name.trans ht) rfl
  · rw [Table.foldl_changeColumn_columns (tableOf_consistent name _).nodup
      l.kind.unhindered_change.name htwice]
    refine List.map_congr_left fun c hc => ?_
    rw [any_marked (hplain c hc)]

/-- A line of a key, whichever way the text lists its columns, marks exactly the columns that are
listed bare or without an order; a unique key marks its only one. -/
theorem createTable_keyLine (l : KeyLine)
    (hplain : ∀ c ∈ (tableOf name (before ++ after)).columns, Text.Plain c.name) :
    (∀ s, body? s = some (name, before ++ l.print :: after) →
      createTable s = .ok (some (l.apply (tableOf name (before ++ after))))) ∧
    ∀ head tail, createHead? (head ++ ['(']) = some (name, []) →
      (∀ p ∈ before ++ after, IsBalanced p) →
      createTable (statementOf head (before ++ l.print :: after) tail) =
        .ok (some (l.apply (tableOf name (before ++ after)))) := by
  have htable := l.tableOf_print hplain
  refine ⟨fun s hs => ?_, fun head tail hhead hparts => ?_⟩
  · exact createTable_eq_some_iff.mpr ⟨_, _, hs, htable⟩
  · rw [← htable]
    refine createTable_statementOf hhead (fun p hp => ?_) tail
    rcases List.mem_append.mp hp with hp | hp
    · exact hparts p (List.mem_append_left after hp)
    · rcases List.mem_cons.mp hp with rfl | hp
      · exact l.isBalanced_print
      · exact hparts p (List.mem_append_right before hp)

/-- A key over two columns, one bare with an order and one in quotes. -/
theorem createTable_keyLine_track :
    createTable
      "CREATE TABLE track (album INT, PRIMARY KEY (ALBUM DESC, `number`), Number INT)".toList =
        .ok (some ⟨"track".toList, [
          { name := "album".toList, type := "INT".toList, isPrimary := true, nullable := false },
          { name := "Number".toList, type := "INT".toList, isPrimary := true,
            nullable := false }]⟩) := by
  let album : KeyItem :=
    ⟨none, "ALBUM".toList, some "DESC".toList, by decide, by decide, by rintro _ ⟨⟩; decide⟩
  let number : KeyItem :=
    ⟨some .backticks, "number".toList, none, by decide, by decide, by rintro _ ⟨⟩⟩
  have hplain : ∀ c ∈ (tableOf "track".toList (["album INT".toList] ++
      ["Number INT".toList])).columns, Text.Plain c.name := by
    decide +kernel
  have hread := (createTable_keyLine ⟨.primary, album, [number]⟩ hplain).2
    "CREATE TABLE track ".toList [] (by decide +kernel) (by decide +kernel)
  exact hread.trans (by decide +kernel)

/-- A column that is listed in quotes with an order behind it is not marked. -/
theorem createTable_ordered_keyLine :
    ¬∀ (l : KeyLine) (before after : List Text) (t : Table), l.kind = .primary →
      (∀ i ∈ l.items, i.order ∈ [none, some "ASC".toList, some "DESC".toList]) →
      (∀ c ∈ (tableOf "track".toList (before ++ after)).columns, Text.Plain c.name) →
      (∀ i ∈ l.items, ∃ c ∈ (tableOf "track".toList (before ++ after)).columns,
        sameName c.name i.name = true) →
      createTable (statementOf "CREATE TABLE track ".toList (before ++ l.print :: after) []) =
        .ok (some t) →
      ∀ c ∈ t.columns, (∃ i ∈ l.items, sameName c.name i.name = true) → c.isPrimary = true := by
  intro h
  let album : KeyItem := ⟨some .backticks, "album".toList, some "ASC".toList, by decide, by decide,
    by rintro _ ⟨⟩; decide⟩
  have hprimary := h ⟨.primary, album, []⟩ ["album INT".toList] []
    ⟨"track".toList, [{ name := "album".toList, type := "INT".toList }]⟩ rfl (by decide +kernel)
    (by decide +kernel) (by decide +kernel) (by decide +kernel) _ List.mem_cons_self
    (by decide +kernel)
  cases hprimary

end KeyLine
end Sql
end SchemaDiagram
