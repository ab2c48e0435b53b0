import SchemaDiagram.Proofs.Sql.Constraints
import SchemaDiagram.Sql.CreateTable

/-! Reading the definition of a column back: its default, the column it points at, and all of it. -/
namespace SchemaDiagram

open Sql

variable {c : Column} {r : Reference} {scope : List Text} {t v rest pre post : Text}

namespace Sql

/-- What is read after the keyword of a reference. -/
def target? (t : Text) : Option (Target × Text) := do
  let t ← Text.gap? t
  let (table, rest) ← (qualified t).head?
  match parenthesised? (Text.skipBlanks rest) with
  | some (list, rest) => some (⟨unquote table, listedNames list⟩, rest)
  | none => some (⟨unquote table, []⟩, rest)

theorem target_read?_eq :
    Target.read? = fun t => Text.afterCapitals "REFERENCES".toList t >>= target? := by
  funext t
  exact Option.bind_assoc _ _ _

theorem read_target (hs : ∀ q ∈ scope, IsName q) (hr : IsName r.table ∧ IsName r.column) :
    Target.read? ("REFERENCES".toList ++
      ' ' :: (chain scope r.table ++ ' ' :: '(' :: (tick r.column ++ [')']))) =
        some (⟨r.table, [r.column]⟩, []) := by
  have hk : IsKeyword "REFERENCES".toList := by decide
  have hlist : Text.skipBlanks (' ' :: '(' :: (tick r.column ++ [')'])) =
      '(' :: (tick r.column ++ [')']) := rfl
  simp only [target_read?_eq]
  rw [hk.afterCapitals, Option.bind_eq_bind, Option.bind_some, target?, Text.gap?_blank,
    skipBlanks_chain, Option.bind_eq_bind, Option.bind_some, qualified_chain hs hr.1 rfl,
    Option.bind_eq_bind, Option.bind_some]
  simp only [hlist, parenthesised?_tick hr.2, unquote_tick, listedNames_tick hr.2]

theorem passes_references :
    Passes (Text.searchWord Target.read? false) (fun w => Text.upper w ≠ "REFERENCES".toList) := by
  rw [target_read?_eq]
  apply passes_searchWord (by decide)
  · intro c t hc
    simp [target?, Text.gap?_of_isPlain hc]
  · intro q w r _ _
    cases q <;> rfl

theorem defaultWord?_eq (definition : Text) :
    defaultWord? definition = Text.search (fun t => Text.afterCapitals "DEFAULT".toList t >>=
      fun t => Text.gap? t >>= plainValue?) definition := by
  unfold defaultWord?
  congr 1
  funext t
  exact Option.bind_assoc _ _ _

theorem passes_default :
    Passes defaultWord? (fun w => ¬ "DEFAULT".toList <:+ Text.upper w) := by
  rw [funext defaultWord?_eq]
  apply passes_search (by decide)
  · intro c t hc
    simp [Text.gap?_of_isPlain hc]
  · intro q r
    cases q <;> rfl

theorem read_default (hne : v ≠ []) (hv : Text.Plain v) (hr : rest = [] ∨ ∃ t, rest = ' ' :: t) :
    (Text.afterCapitals "DEFAULT".toList ("DEFAULT".toList ++ ' ' :: (v ++ rest)) >>=
      fun t => Text.gap? t >>= plainValue?) = some v := by
  have hk : IsKeyword "DEFAULT".toList := by decide
  have hall : ∀ c ∈ v, (!Text.isBlank c && c != ',') = true := by
    intro c hc
    have hcomma := Text.ne_of_isPlain (hv c hc) (d := ',') (by decide)
    simp [Text.isBlank_of_isPlain (hv c hc), hcomma]
  have htake : (v ++ rest).takeWhile (fun c => !Text.isBlank c && c != ',') = v := by
    rw [List.takeWhile_append_of_pos hall]
    rcases hr with rfl | ⟨t, rfl⟩
    · simp
    · rw [List.takeWhile_cons_of_neg (by decide), List.append_nil]
  have hvalue : plainValue? (v ++ rest) = some v := by
    obtain ⟨c, v, rfl⟩ := List.exists_cons_of_ne_nil hne
    simp only [plainValue?, htake]
  rw [hk.afterCapitals, Option.bind_eq_bind, Option.bind_some, Text.gap?_blank,
    Text.skipBlanks_append hv hne, Option.bind_some, hvalue]

/-- No quotes stand in a text. -/
def Unquoted (t : Text) : Prop := ∀ c ∈ t, c ≠ '\'' ∧ c ≠ '"'

instance (t : Text) : Decidable (Unquoted t) := List.decidableBAll _ t

/-- Quotes are dropped at both ends of a text that has none itself. -/
theorem stripQuotes_around (hpre : ∀ c ∈ pre, c = '\'') (hpost : ∀ c ∈ post, c = '\'')
    (hv : Unquoted v) : stripQuotes (pre ++ v ++ post) = v := by
  let isMark := fun c => c == '\'' || c == '"'
  have hdrop {pre : Text} (hpre : ∀ c ∈ pre, c = '\'') (r : Text) :
      (pre ++ r).dropWhile isMark = r.dropWhile isMark :=
    List.dropWhile_append_of_pos fun c hc => by simp [isMark, hpre c hc]
  have hkeep {v : Text} (hv : Unquoted v) : v.dropWhile isMark = v := by
    cases v with
    | nil => rfl
    | cons c v => exact List.dropWhile_cons_of_neg (by simp [isMark, hv c List.mem_cons_self])
  have hfront : (pre ++ v ++ post).dropWhile isMark = if v = [] then [] else v ++ post := by
    rw [List.append_assoc, hdrop hpre]
    cases v with
    | nil =>
      have hnone := hdrop hpost []
      rwa [List.append_nil] at hnone
    | cons c v => exact List.dropWhile_cons_of_neg (by simp [isMark, hv c List.mem_cons_self])
  change (((pre ++ v ++ post).dropWhile isMark).reverse.dropWhile isMark).reverse = v
  rw [hfront]
  split
  · next hempty => exact hempty.symm
  · rw [List.reverse_append, hdrop fun c hc => hpost c (List.mem_reverse.mp hc),
      hkeep fun c hc => hv c (List.mem_reverse.mp hc), List.reverse_reverse]

theorem stripQuotes_plain (hv : Text.Plain v) : stripQuotes v = v := by
  have hunquoted : Unquoted v := fun c hc =>
    ⟨Text.ne_of_isPlain (hv c hc) (by decide), Text.ne_of_isPlain (hv c hc) (by decide)⟩
  have hstrip : stripQuotes ([] ++ v ++ []) = v := stripQuotes_around (by simp) (by simp) hunquoted
  rwa [List.nil_append, List.append_nil] at hstrip

theorem IsType.exists_append {type : Text} (h : IsType type) :
    ∃ v r, type = v ++ r ∧ v ≠ [] ∧ Text.Plain v := by
  obtain ⟨words, hne, hv, -, rfl⟩ := h
  obtain ⟨w, words, rfl⟩ := List.exists_cons_of_ne_nil hne
  have hw := hv w (by simp)
  cases words with
  | nil => exact ⟨w.word, w.arguments, rfl, hw.nonempty, hw.plain⟩
  | cons v words =>
    refine ⟨w.word, w.arguments ++ ([' '] ++ Text.join [' '] ((v :: words).map TypeWord.spelling)),
      ?_, hw.nonempty, hw.plain⟩
    simp [Text.join, TypeWord.spelling]

theorem ascii_tick (h : IsName t) : Text.Ascii (tick t) := by
  simp only [tick, Text.ascii_append, Text.ascii_cons]
  exact ⟨⟨by decide, h.plain.ascii⟩, by decide, by simp [Text.Ascii]⟩

theorem ascii_chain (hs : ∀ q ∈ scope, IsName q) (h : IsName t) : Text.Ascii (chain scope t) := by
  refine Text.ascii_append.mpr ⟨?_, ascii_tick h⟩
  intro c hc
  obtain ⟨q, hq, hc⟩ := List.mem_flatMap.mp hc
  have hqualifier : Text.Ascii (tick q ++ ['.']) :=
    Text.ascii_append.mpr ⟨ascii_tick (hs q hq), by simp [Text.Ascii]⟩
  exact hqualifier c hc

theorem ascii_spaced {words : List Text} (h : ∀ w ∈ words, Text.Ascii w) :
    Text.Ascii (spaced words) := by
  intro c hc
  obtain ⟨w, hw, hc⟩ := List.mem_flatMap.mp hc
  have hword : Text.Ascii (' ' :: w) := Text.ascii_cons.mpr ⟨by decide, h w hw⟩
  exact hword c hc

theorem TypeWord.Valid.ascii_spelling {w : TypeWord} (h : w.Valid) : Text.Ascii w.spelling := by
  refine Text.ascii_append.mpr ⟨h.plain.ascii, ?_⟩
  unfold arguments
  split
  · simp [Text.Ascii]
  · next numbers hn =>
    have hnumbers : Text.Ascii (Text.join [','] numbers) := by
      intro c hc
      rcases h.mem_numbers hn c hc with hd | rfl | rfl
      · exact Text.ascii_of_isPlain (Text.isPlain_of_isDigit hd)
      · decide
      · decide
    have hopen : Text.Ascii ('(' :: Text.join [','] numbers) :=
      Text.ascii_cons.mpr ⟨by decide, hnumbers⟩
    exact Text.ascii_append.mpr ⟨hopen, by simp [Text.Ascii]⟩

end Sql

namespace Column.Printable

/-- Nothing but the keyword itself ends like it in front of the default. -/
theorem defaultWord?_print (hc : c.Printable) (hs : ∀ q ∈ scope, IsName q) :
    defaultWord? (c.print scope) = c.defaultValue := by
  have h := passes_default
  have hplain := hc.plain_constraints
  have hends := c.ends_pointer scope
  simp only [constraints, ← List.append_assoc] at hplain
  have hflags : ∀ w ∈ flag (!c.nullable) ["NOT", "NULL"] ++ flag c.isUnique ["UNIQUE"] ++
      flag c.isPrimary ["PRIMARY", "KEY"], ¬ "DEFAULT".toList <:+ Text.upper w := by
    simp only [List.forall_mem_append]
    exact ⟨⟨forall_mem_flag fun _ => by decide, forall_mem_flag fun _ => by decide⟩,
      forall_mem_flag fun _ => by decide⟩
  have hclauses : defaultWord? (c.print scope) =
      defaultWord? (spaced c.defaultWords ++ c.pointer scope) := by
    have hsplit : c.clauses scope = spaced (flag (!c.nullable) ["NOT", "NULL"] ++
        flag c.isUnique ["UNIQUE"] ++ flag c.isPrimary ["PRIMARY", "KEY"]) ++
          (spaced c.defaultWords ++ c.pointer scope) := by
      simp only [clauses, constraints, spaced, List.flatMap_append, List.append_assoc]
    rw [h.print hc fun w hv => hv.notDefault, hsplit]
    exact h.spaced (fun w hw => ⟨hplain w (List.mem_append_left _ hw), hflags w hw⟩)
      (ends_spaced _ hends)
  rw [hclauses]
  cases hv : c.defaultValue with
  | none =>
    have hwords : c.defaultWords = [] := by simp [defaultWords, hv]
    have hp := h.pointer hs hc (by decide)
    rw [hwords]
    exact hp
  | some v =>
    obtain ⟨hne, hv', -⟩ := hc.default v hv
    have hspaced : spaced c.defaultWords ++ c.pointer scope =
        ' ' :: ("DEFAULT".toList ++ ' ' :: (v ++ c.pointer scope)) := by
      simp only [defaultWords, hv, spaced, List.flatMap_cons, List.flatMap_nil, List.append_nil,
        List.append_assoc, List.cons_append]
    have hread := read_default hne hv' (c.pointer_cases scope)
    rw [hspaced, h.mark (by decide), defaultWord?_eq,
      search_eq_read (Option.isSome_of_mem hread), hread]

theorem columnDefault?_print (hc : c.Printable) (hs : ∀ q ∈ scope, IsName q) :
    columnDefault? (c.print scope) = c.defaultValue := by
  rw [columnDefault?, hc.defaultWord?_print hs]
  cases hv : c.defaultValue with
  | none => rfl
  | some v =>
    obtain ⟨-, hplain, hstop⟩ := hc.default v hv
    have hnull := upper_ne_of_typeStop (k := "NULL") hstop (by decide)
    rw [Option.map_some, stripQuotes_plain hplain, Option.filter_some,
      if_pos (by simpa using hnull)]

theorem columnTarget?_print (hc : c.Printable) (hs : ∀ q ∈ scope, IsName q) :
    columnTarget? (c.print scope) = c.reference := by
  have h := passes_references
  have hwords : ∀ w ∈ c.constraints, Text.upper w ≠ "REFERENCES".toList := by
    simp only [constraints, List.forall_mem_append]
    exact ⟨forall_mem_flag fun _ => by decide, forall_mem_flag fun _ => by decide,
      forall_mem_flag fun _ => by decide,
      hc.defaultWords_ne (by decide) (by decide)⟩
  have hclauses : Text.searchWord Target.read? false (c.print scope) =
      Text.searchWord Target.read? false (c.pointer scope) := by
    rw [h.print hc fun w hv => upper_ne_of_typeStop hv.notStop (by decide)]
    exact h.spaced (fun w hw => ⟨hc.plain_constraints w hw, hwords w hw⟩) (c.ends_pointer scope)
  rw [columnTarget?, hclauses, pointer]
  cases hr : c.reference with
  | none => rfl
  | some r =>
    have hread := read_target hs (hc.reference r hr)
    simp only [r.print_eq]
    rw [h.mark (by decide), searchWord_eq_read (by simp) (Option.isSome_of_mem hread),
      hread]
    rfl

theorem ascii_print (hc : c.Printable) (hs : ∀ q ∈ scope, IsName q) :
    Text.Ascii (c.print scope) := by
  obtain ⟨words, hv, hspaced⟩ := hc.type.exists_spaced
  have htypes : Text.Ascii (spaced (words.map TypeWord.spelling)) := by
    apply ascii_spaced
    intro w hw
    obtain ⟨v, hm, rfl⟩ := List.mem_map.mp hw
    exact (hv v hm).ascii_spelling
  have hpointer : Text.Ascii (c.pointer scope) := by
    unfold pointer
    split
    · next r hr =>
      obtain ⟨htable, hcolumn⟩ := hc.reference r hr
      have hkeyword : Text.Ascii "REFERENCES".toList := by decide
      simp only [Reference.print, Text.ascii_append, Text.ascii_cons]
      exact ⟨⟨⟨⟨by decide, hkeyword⟩, by decide, ascii_chain hs htable⟩, by decide, by decide,
        ascii_tick hcolumn⟩, by decide, by simp [Text.Ascii]⟩
    · simp [Text.Ascii]
  rw [print, hspaced, clauses]
  exact Text.ascii_append.mpr ⟨Text.ascii_append.mpr ⟨ascii_tick hc.name, htypes⟩,
    Text.ascii_append.mpr
      ⟨ascii_spaced fun w hw => (hc.plain_constraints w hw).ascii, hpointer⟩⟩

/-- The first word of the constraints is one that ends a type. -/
theorem head_constraints (c : Column) : ∀ w ∈ c.constraints.head?, isTypeStop w = true := by
  have happend : ∀ {a b : List Text}, (∀ w ∈ a.head?, isTypeStop w = true) →
      (∀ w ∈ b.head?, isTypeStop w = true) → ∀ w ∈ (a ++ b).head?, isTypeStop w = true := by
    intro a b ha hb
    cases a with
    | nil => exact hb
    | cons => exact ha
  have hflag : ∀ {holds : Bool} {k : String} {more : List String}, isTypeStop k.toList = true →
      ∀ w ∈ (flag holds (k :: more)).head?, isTypeStop w = true := by
    intro holds k more hk w hw
    cases holds with
    | false => cases hw
    | true =>
      cases hw
      exact hk
  refine happend (hflag (by decide)) (happend (hflag (by decide))
    (happend (hflag (by decide)) ?_))
  intro w hw
  unfold defaultWords at hw
  split at hw
  · cases hw
    decide
  · cases hw

/-- The first word behind the type is one that ends it. -/
theorem follows_clauses (hc : c.Printable) (scope : List Text) :
    Follows (fun v => isTypeStop v = true) (c.clauses scope) := by
  have hplain := hc.plain_constraints
  have hhead := head_constraints c
  unfold clauses
  cases hw : c.constraints with
  | nil =>
    unfold pointer
    split
    · next r _ =>
      rw [r.print_eq]
      exact Or.inr ⟨_, _, rfl, by decide, by decide, by simp [Ends], by decide⟩
    · exact Or.inl rfl
  | cons w words =>
    rw [hw] at hplain hhead
    refine Or.inr ⟨w, spaced words ++ c.pointer scope, ?_, ?_, hplain w (by simp),
      ends_spaced _ (c.ends_pointer scope), hhead w rfl⟩
    · simp [spaced]
    · rintro rfl
      have hstop := hhead [] rfl
      revert hstop
      decide

/-- What is declared by the definition of a column is the column. -/
theorem column?_print (hc : c.Printable) (hs : ∀ q ∈ scope, IsName q) (hf : c.Consistent) :
    column? (c.print scope) = some c := by
  have hascii := hc.ascii_print hs
  obtain ⟨v, r, htype, hne, hv⟩ := hc.type.exists_append
  have hhead : definitionHead? (c.print scope) = some (c.name, c.type ++ c.clauses scope) := by
    have hskip : Text.skipBlanks (c.type ++ c.clauses scope) = c.type ++ c.clauses scope := by
      rw [htype, List.append_assoc, Text.skipBlanks_append hv hne]
    rw [definitionHead?, print, List.append_assoc, name?_tick hc.name]
    simp only [Option.bind_eq_bind, Option.bind_some, List.cons_append, Text.gap?_blank, hskip,
      Option.map_some, unquote_tick]
  have hempty : c.type.isEmpty = false := by simp [htype, hne]
  rw [column?, hhead, Option.bind_eq_bind, Option.bind_some]
  simp only [columnType_append hc.type (hc.follows_clauses scope), hempty, Bool.false_eq_true,
    if_false]
  rw [columnOf, hc.hasWords_primary hs hascii, hc.hasWord_unique hs hascii,
    hc.hasWords_notNull hs hascii, hc.columnDefault?_print hs, hc.columnTarget?_print hs]
  obtain ⟨name, type, isPrimary, isUnique, nullable, defaultValue, reference, isForeign⟩ := c
  cases reference with
  | none =>
    have hforeign : isForeign = false := by simpa [Consistent] using hf
    simp [hforeign]
  | some r =>
    have hforeign : isForeign = true := by simpa [Consistent] using hf
    simp [pointAt, hforeign]

/-- No keyword stands before the name of a column, so its definition declares a column. -/
theorem partKind_print (c : Column) (scope : List Text) : partKind (c.print scope) = .column := rfl

end Column.Printable

namespace Sql

variable {α : Type} {as : List α} {u : Table} {ps : List Text}

theorem columnOf_name_type (definition name type : Text) :
    (columnOf definition name type).name = name ∧ (columnOf definition name type).type = type := by
  unfold columnOf
  dsimp only
  split <;> exact ⟨rfl, rfl⟩

/-- Parts that declare columns with names of their own declare one after the other. -/
theorem foldl_declarePart_map (part : α → Text) (column : α → Column)
    (hk : ∀ a ∈ as, partKind (part a) = .column) (hc : ∀ a ∈ as, column? (part a) = some (column a))
    (hn : ((u.columns ++ as.map column).map fun c => Text.lower c.name).Nodup) :
    (as.map part).foldl declarePart u = { u with columns := u.columns ++ as.map column } := by
  induction as generalizing u with
  | nil => simp
  | cons a as ih =>
    obtain ⟨hkind, hk⟩ := List.forall_mem_cons.mp hk
    obtain ⟨hcolumn, hc⟩ := List.forall_mem_cons.mp hc
    have hnew : u.column? (column a).name = none := by
      rw [List.map_cons, List.map_append, List.map_cons, List.nodup_append] at hn
      rw [Table.column?, List.find?_eq_none]
      intro d hd he
      exact hn.2.2 _ (List.mem_map_of_mem hd) _ List.mem_cons_self (by simpa [sameName] using he)
    have hpart : declarePart u (part a) = { u with columns := u.columns ++ [column a] } := by
      rw [declarePart, hkind, hcolumn]
      simp [Table.declare, hnew]
    rw [List.map_cons, List.foldl_cons, hpart, ih hk hc (by simpa using hn)]
    simp

theorem declarePart_of_ne {p : Text} (h : partKind p ≠ .column) (u : Table) :
    declarePart u p = u := by
  unfold declarePart
  split
  · next hkind _ => exact (h hkind).elim
  · rfl

/-- Constraints on the table declare no columns. -/
theorem foldl_declarePart_constraints (h : ∀ p ∈ ps, partKind p ≠ .column) (u : Table) :
    ps.foldl declarePart u = u := by
  induction ps with
  | nil => rfl
  | cons p ps ih =>
    obtain ⟨hp, hps⟩ := List.forall_mem_cons.mp h
    rw [List.foldl_cons, declarePart_of_ne hp, ih hps]

/-- Definitions of columns are no constraints on the table. -/
theorem foldl_applyPart_columns (h : ∀ p ∈ ps, partKind p = .column) (u : Table) :
    ps.foldl applyPart u = u := by
  induction ps with
  | nil => rfl
  | cons p ps ih =>
    obtain ⟨hp, hps⟩ := List.forall_mem_cons.mp h
    have hpart : applyPart u p = u := by rw [applyPart, hp]
    rw [List.foldl_cons, hpart, ih hps]

/-- Of a body with its columns in front, the constraints are folded into what these declare. -/
theorem tableOf_append {ls : List Text} (hp : ∀ p ∈ ps, partKind p = .column)
    (hl : ∀ p ∈ ls, partKind p ≠ .column) (name : Text) :
    tableOf name (ps ++ ls) = ls.foldl applyPart (ps.foldl declarePart { name }) := by
  rw [tableOf, List.foldl_append, List.foldl_append, foldl_declarePart_constraints hl,
    foldl_applyPart_columns hp]

end Sql
end SchemaDiagram
