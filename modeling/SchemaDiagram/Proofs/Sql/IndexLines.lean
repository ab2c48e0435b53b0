import SchemaDiagram.Proofs.Postgres.Types
import SchemaDiagram.Proofs.Sql.Renaming
import SchemaDiagram.Proofs.Sql.Spellings

/-!
Lines that declare an index. Such a line starts like the definition of a column that is named by a
keyword and is told apart by one character, the first one of its list: an ASCII letter, a low line
or what opens a quoted name. A list that starts with any other character of a word is taken for the
arguments of a type.
-/
namespace SchemaDiagram.Sql

variable {c : Char} {r w n p : Text} {k k' : String}

/-- The letters of a word stand for those of a keyword. -/
def Spells (k : String) (w : Text) : Prop := w.map Text.capital = k.toList

instance : Decidable (Spells k w) := inferInstanceAs (Decidable (_ = _))

/-- Two keywords differ in a letter at a place that both have. -/
def differ (k k' : String) : Bool := (k.toList.zip k'.toList).any fun pair => pair.1 != pair.2

namespace Spells

theorem isBare (hk : IsKeyword k.toList) (h : Spells k w) : IsBare w := by
  constructor
  · rintro rfl
    exact hk.1 h.symm
  · intro c hc
    have hm : Text.capital c ∈ k.toList := h ▸ List.mem_map_of_mem hc
    exact Text.isWord_of_capital (Text.isPlain_of_isUpper (hk.2 _ hm))

theorem keyword?_append (h : Spells k w) (r : Text) : Text.keyword? k (w ++ r) = some r := by
  rw [Text.keyword?, ← show w.map Text.capital = k.toList from h]
  clear h
  induction w with
  | nil => rfl
  | cons c w ih => rw [List.map_cons, List.cons_append, Text.afterCapitals, if_pos rfl, ih]

theorem keyword?_of_differ (h : Spells k w) (hd : differ k k' = true) (r : Text) :
    Text.keyword? k' (w ++ r) = none := by
  rw [differ, ← show w.map Text.capital = k.toList from h] at hd
  rw [Text.keyword?]
  clear h
  generalize k'.toList = capitals at hd ⊢
  induction w generalizing capitals with
  | nil => cases hd
  | cons c w ih =>
    cases capitals with
    | nil => cases hd
    | cons d capitals =>
      rw [List.cons_append, Text.afterCapitals]
      split
      · next hc =>
        refine ih _ ?_
        simpa [hc] using hd
      · rfl

end Spells

/-- The words that a constraint on the table may start with. -/
def constraintWords : List String := ["CONSTRAINT", "PRIMARY", "FOREIGN", "UNIQUE", "CHECK"]

/-- The words that a line of an index may start with. -/
def indexWords : List String := ["KEY", "INDEX", "FULLTEXT", "SPATIAL"]

/-- What starts with a word of an index is a definition of a column or a line of an index. -/
theorem partKind_of_spells (hk : k ∈ indexWords) (h : Spells k w) (r : Text) :
    partKind (w ++ r) = if isIndexLine (w ++ r) then .ignored else .column := by
  have hdiffer : ∀ k ∈ indexWords, ∀ k' ∈ constraintWords, differ k k' = true := by decide
  have hnone (k' : String) (hk' : k' ∈ constraintWords) : Text.keyword? k' (w ++ r) = none :=
    h.keyword?_of_differ (hdiffer k hk k' hk') r
  have hskip : skipConstraintName (w ++ r) = w ++ r := by
    rw [skipConstraintName, constraintName?, Text.keywordGap?, hnone _ (by decide)]
    rfl
  simp only [partKind, hskip, Text.keywordGap?, Text.wholeKeyword?, hnone "PRIMARY" (by decide),
    hnone "FOREIGN" (by decide), hnone "UNIQUE" (by decide), hnone "CHECK" (by decide)]
  simp

theorem definitionHead?_of_spells (hk : k ∈ indexWords) (h : Spells k w) (r : Text) :
    definitionHead? (w ++ ' ' :: r) = some (w, Text.skipBlanks r) := by
  have hkeyword : ∀ k ∈ indexWords, IsKeyword k.toList := by decide
  exact (h.isBare (hkeyword k hk)).definitionHead?_append rfl

/-- The whole text is read as one name. -/
def IsIdentifier (n : Text) : Prop := name? n = some (n, [])

instance : Decidable (IsIdentifier n) := inferInstanceAs (Decidable (_ = _))

namespace IsIdentifier

theorem isBare_or_around (h : IsIdentifier n) :
    IsBare n ∨ ∃ (q : Quotes) (w : Text), w ≠ [] ∧ q.closer ∉ w ∧ n = q.around w := by
  unfold IsIdentifier name? at h
  split at h
  · cases h
  · next c t =>
    split at h
    · next close hclose =>
      obtain ⟨q, rfl, rfl⟩ := Quotes.exists_of_closer? hclose
      obtain ⟨⟨inner, left⟩, hinner, heq⟩ := Option.map_eq_some_iff.mp h
      obtain ⟨rfl, rfl⟩ : inner = t ∧ left = [] := by simpa using heq
      unfold enclosed? at hinner
      split at hinner
      · next d content e rest hcontent _ =>
        have hnot : q.closer ∉ d :: content := by
          intro hm
          rw [← hcontent] at hm
          simpa using List.mem_takeWhile_imp hm
        have ht : d :: content ++ [q.closer] = inner := (Prod.mk.inj (Option.some.inj hinner)).1
        exact Or.inr ⟨q, d :: content, List.cons_ne_nil d content, hnot, by rw [← ht]; rfl⟩
      · cases hinner
    · left
      refine ⟨List.cons_ne_nil c t, fun d hd => ?_⟩
      unfold Text.word? Text.word at h
      split at h
      · cases h
      · have hword : (c :: t).takeWhile Text.isWord = c :: t := (Prod.mk.inj (Option.some.inj h)).1
        rw [← hword] at hd
        exact List.mem_takeWhile_imp hd

/-- A name is read up to where it ends, whatever comes behind it. -/
theorem name?_append (h : IsIdentifier n) (hr : Text.atWordEnd r = true) :
    name? (n ++ r) = some (n, r) := by
  rcases h.isBare_or_around with hn | ⟨q, w, hne, hw, rfl⟩
  · exact hn.name?_append hr
  · exact q.name?_around_of_not_mem hne hw

theorem exists_cons (h : IsIdentifier n) : ∃ c t, n = c :: t ∧ Text.isBlank c = false := by
  rcases h.isBare_or_around with hn | ⟨q, w, -, -, rfl⟩
  · obtain ⟨c, t, rfl⟩ := List.exists_cons_of_ne_nil hn.1
    exact ⟨c, t, rfl, hn.blankless c List.mem_cons_self⟩
  · exact ⟨q.opener, w ++ [q.closer], rfl, q.isBlank_opener⟩

end IsIdentifier

/-- The characters by which a list of columns is told apart. -/
def opensName (c : Char) : Bool := (closer? c).isSome || c == '_' || (Text.capital c).isUpper

/-- Neither a digit nor a quote is a character by which a list is told apart. -/
theorem opensName_of_begun (h : (Text.isDigit c || c == '\'') = true) : opensName c = false := by
  by_cases hc : c.toNat < 128
  · revert h
    exact Text.ascii_induction hc (by decide)
  · have hne (d : Char) (hd : d.toNat < 128) : c ≠ d := by
      rintro rfl
      exact hc hd
    have hclose : closer? c = none := by
      rw [closer?, if_neg (hne _ (by decide)), if_neg (hne _ (by decide)),
        if_neg (hne _ (by decide))]
    have hcapital : (Text.capital c).isUpper = false := by
      have hnone : Text.capitalised.all (fun c => !(Text.isDigit c || c == '\'')) = true := by
        decide
      rcases Text.capital_of_not_ascii hc with hmem | heq
      · have hneither := List.all_eq_true.mp hnone c hmem
        rw [h] at hneither
        cases hneither
      · rw [heq, ← Bool.not_eq_true]
        exact fun hupper => hc (Text.ascii_of_isPlain (Text.isPlain_of_isUpper hupper))
    simp [opensName, hclose, hcapital, hne '_' (by decide)]

/-- A list of columns follows the keyword, with a name before it or not. -/
def listsNames (t : Text) : Bool :=
  match skipName (Text.skipBlanks t) with
  | '(' :: t =>
    match Text.skipBlanks t with
    | c :: _ => opensName c
    | [] => false
  | _ => false

theorem isIndexLine_eq (p : Text) : isIndexLine p =
    match (Text.keyword? "KEY" (((Text.keywordGap? "FULLTEXT" p).or
        (Text.keywordGap? "SPATIAL" p)).getD p)).or
      (Text.keyword? "INDEX" (((Text.keywordGap? "FULLTEXT" p).or
        (Text.keywordGap? "SPATIAL" p)).getD p)) with
    | none => false
    | some t => listsNames t := rfl

/-- The words that a line of an index needs, in any letter case. -/
def IsIndexWord (w : Text) : Prop := Spells "KEY" w ∨ Spells "INDEX" w

instance : Decidable (IsIndexWord w) := inferInstanceAs (Decidable (_ ∨ _))

/-- The words that may come before those, in any letter case. -/
def IsModifier (w : Text) : Prop := Spells "FULLTEXT" w ∨ Spells "SPATIAL" w

instance : Decidable (IsModifier w) := inferInstanceAs (Decidable (_ ∨ _))

theorem IsIndexWord.exists_spells (h : IsIndexWord w) : ∃ k ∈ indexWords, Spells k w :=
  h.elim (fun h => ⟨"KEY", by decide, h⟩) fun h => ⟨"INDEX", by decide, h⟩

theorem IsModifier.exists_spells (h : IsModifier w) : ∃ k ∈ indexWords, Spells k w :=
  h.elim (fun h => ⟨"FULLTEXT", by decide, h⟩) fun h => ⟨"SPATIAL", by decide, h⟩

theorem IsIndexWord.isBare (h : IsIndexWord w) : IsBare w := by
  rcases h with h | h <;> exact h.isBare (by decide)

theorem IsIndexWord.or_keyword? (h : IsIndexWord w) (r : Text) :
    (Text.keyword? "KEY" (w ++ r)).or (Text.keyword? "INDEX" (w ++ r)) = some r := by
  rcases h with h | h
  · rw [h.keyword?_append, Option.some_or]
  · rw [h.keyword?_of_differ (by decide), Option.none_or, h.keyword?_append]

theorem isIndexLine_word (h : IsIndexWord w) (r : Text) : isIndexLine (w ++ r) = listsNames r := by
  have hfull : Text.keywordGap? "FULLTEXT" (w ++ r) = none := by
    rcases h with h | h <;> rw [Text.keywordGap?, h.keyword?_of_differ (by decide)] <;> rfl
  have hspatial : Text.keywordGap? "SPATIAL" (w ++ r) = none := by
    rcases h with h | h <;> rw [Text.keywordGap?, h.keyword?_of_differ (by decide)] <;> rfl
  rw [isIndexLine_eq, hfull, hspatial, Option.none_or, Option.getD_none, h.or_keyword?]

theorem isIndexLine_modifier {m : Text} (hm : IsModifier m) (h : IsIndexWord w) (r : Text) :
    isIndexLine (m ++ ' ' :: (w ++ r)) = listsNames r := by
  have hgap : Text.gap? (' ' :: (w ++ r)) = some (w ++ r) := by
    obtain ⟨c, w, rfl⟩ := List.exists_cons_of_ne_nil h.isBare.1
    rw [Text.gap?_blank, List.cons_append,
      Text.skipBlanks_cons (h.isBare.blankless c List.mem_cons_self)]
  have hskip : (Text.keywordGap? "FULLTEXT" (m ++ ' ' :: (w ++ r))).or
      (Text.keywordGap? "SPATIAL" (m ++ ' ' :: (w ++ r))) = some (w ++ r) := by
    rcases hm with hm | hm
    · rw [Text.keywordGap?, hm.keyword?_append, Option.bind_eq_bind, Option.bind_some, hgap,
        Option.some_or]
    · rw [Text.keywordGap?, hm.keyword?_of_differ (by decide), Option.bind_eq_bind,
        Option.bind_none, Option.none_or, Text.keywordGap?, hm.keyword?_append,
        Option.bind_eq_bind, Option.bind_some, hgap]
  rw [isIndexLine_eq, hskip, Option.getD_some, h.or_keyword?]

theorem listsNames_list (hc : Text.isBlank c = false) (t : Text) :
    listsNames (' ' :: '(' :: c :: t) = opensName c := by
  have hname : skipName (Text.skipBlanks (' ' :: '(' :: c :: t)) = '(' :: c :: t := rfl
  rw [listsNames, hname]
  simp only [Text.skipBlanks_cons hc]

theorem listsNames_named (hn : IsIdentifier n) (r : Text) :
    listsNames (' ' :: (n ++ ' ' :: '(' :: r)) = listsNames (' ' :: '(' :: r) := by
  obtain ⟨c, t, hcons, hc⟩ := hn.exists_cons
  have hblank : Text.skipBlanks (' ' :: (n ++ ' ' :: '(' :: r)) = n ++ ' ' :: '(' :: r := by
    rw [hcons, List.cons_append]
    exact Text.skipBlanks_cons hc
  have hname : skipName (n ++ ' ' :: '(' :: r) = '(' :: r := by
    rw [skipName, hn.name?_append rfl]
    rfl
  have hbare : skipName (Text.skipBlanks (' ' :: '(' :: r)) = '(' :: r := rfl
  rw [listsNames, listsNames, hblank, hname, hbare]

/-- A line of an index: its words, a name where there is one and the columns that it lists. -/
structure IndexLine where
  modifier : Option Text
  word : Text
  name : Option Text
  first : Text
  rest : List Text
  modifies : ∀ m ∈ modifier, IsModifier m
  declares : IsIndexWord word
  identifiers : ∀ n ∈ name.toList ++ first :: rest, IsIdentifier n

namespace IndexLine

def list (l : IndexLine) : Text := '(' :: (Text.join [',', ' '] (l.first :: l.rest) ++ [')'])

def words (l : IndexLine) : List Text := l.modifier.toList ++ l.word :: (l.name.toList ++ [l.list])

def print (l : IndexLine) : Text := Text.join [' '] l.words

/-- The first word of the line. -/
def front (l : IndexLine) : Text := l.modifier.getD l.word

/-- The first name of the list starts with a character by which a list is told apart. -/
def isSeen (l : IndexLine) : Bool := l.first.head?.any opensName

/-- What follows the word for an index. -/
def behind (l : IndexLine) : Text := ' ' :: Text.join [' '] (l.name.toList ++ [l.list])

theorem print_eq (l : IndexLine) : l.print =
    match l.modifier with
    | some m => m ++ ' ' :: (l.word ++ l.behind)
    | none => l.word ++ l.behind := by
  unfold print words behind
  cases l.modifier <;> cases l.name <;> simp [Text.join]

theorem listsNames_behind (l : IndexLine) : listsNames l.behind = l.isSeen := by
  obtain ⟨c, t, hfirst, hc⟩ := (l.identifiers l.first (by simp)).exists_cons
  obtain ⟨u, hlist⟩ : ∃ u, l.list = '(' :: c :: u := by
    obtain ⟨u, hu⟩ := Text.exists_join [',', ' '] l.first l.rest
    exact ⟨t ++ u ++ [')'], by rw [list, hu, hfirst]; rfl⟩
  have hseen : l.isSeen = opensName c := by simp [isSeen, hfirst]
  have hnames := l.identifiers
  rw [behind, hlist, hseen]
  cases hname : l.name with
  | none => exact listsNames_list hc u
  | some n =>
    have hn := hnames n (by simp [hname])
    have htext : ' ' :: Text.join [' '] ((some n).toList ++ ['(' :: c :: u]) =
        ' ' :: (n ++ ' ' :: '(' :: c :: u) := by
      simp [Text.join]
    rw [htext, listsNames_named hn, listsNames_list hc]

theorem isIndexLine_print (l : IndexLine) : isIndexLine l.print = l.isSeen := by
  have hword := l.declares
  have hmodifier := l.modifies
  rw [print_eq, ← l.listsNames_behind]
  cases hm : l.modifier with
  | none => exact isIndexLine_word hword _
  | some m => exact isIndexLine_modifier (hmodifier m hm) hword _

theorem exists_spells (l : IndexLine) : ∃ k ∈ indexWords, Spells k l.front := by
  have hmodifier := l.modifies
  unfold front
  cases hm : l.modifier with
  | none => exact l.declares.exists_spells
  | some m => exact (hmodifier m hm).exists_spells

theorem exists_print (l : IndexLine) : ∃ r, l.print = l.front ++ ' ' :: r := by
  rw [print_eq, front, behind]
  cases l.modifier with
  | none => exact ⟨_, rfl⟩
  | some m => exact ⟨_, rfl⟩

theorem partKind_print (l : IndexLine) :
    partKind l.print = if l.isSeen then .ignored else .column := by
  obtain ⟨k, hk, hfront⟩ := l.exists_spells
  obtain ⟨r, hprint⟩ := l.exists_print
  rw [← l.isIndexLine_print, hprint]
  exact partKind_of_spells hk hfront _

theorem definitionHead?_print (l : IndexLine) :
    ∃ d, definitionHead? l.print = some (l.front, d) := by
  obtain ⟨k, hk, hfront⟩ := l.exists_spells
  obtain ⟨r, hprint⟩ := l.exists_print
  rw [hprint]
  exact ⟨_, definitionHead?_of_spells hk hfront r⟩

end IndexLine

/-- The letters of a type up to its first dot are a bare name. -/
theorem exists_bare_of_dotted (hstarts : startsWord w = true) (hdotted : dottedWord w = (w, [])) :
    ∃ v u, w = v ++ u ∧ IsBare v ∧ (u = [] ∨ ∃ t, u = '.' :: t) := by
  have hmarks := forall_mem_of_dotted hdotted
  refine ⟨w.takeWhile Text.isWord, w.dropWhile Text.isWord, List.takeWhile_append_dropWhile.symm,
    ⟨?_, fun c hc => List.mem_takeWhile_imp hc⟩, ?_⟩
  · cases w with
    | nil => cases hstarts
    | cons c w =>
      have hc : Text.isWord c = true := hstarts
      rw [List.takeWhile_cons_of_pos hc]
      exact List.cons_ne_nil _ _
  · have hhead := List.head?_dropWhile_not Text.isWord w
    cases hu : w.dropWhile Text.isWord with
    | nil => exact Or.inl rfl
    | cons d u =>
      have hd : Text.isWord d = false := by simpa [hu] using hhead
      have hmem : d ∈ w := (List.dropWhile_suffix Text.isWord).subset (by simp [hu])
      rcases hmarks d hmem with hword | rfl
      · rw [hd] at hword
        cases hword
      · exact Or.inr ⟨u, rfl⟩

/-- A column that is named like an index, of a type in one word, alone or with arguments that start
with a number or a literal. -/
structure KeyColumn where
  name : Text
  type : Text
  arguments : Option Text
  named : IsIndexWord name
  starts : startsWord type = true
  dotted : dottedWord type = (type, [])
  begun : ∀ a ∈ arguments, (a.head?.any fun c => Text.isDigit c || c == '\'') = true

namespace KeyColumn

def list (k : KeyColumn) : Text :=
  match k.arguments with
  | some a => '(' :: (a ++ [')'])
  | none => []

def print (k : KeyColumn) : Text := k.name ++ ' ' :: (k.type ++ k.list)

theorem isBlank_begun (h : (Text.isDigit c || c == '\'') = true) : Text.isBlank c = false := by
  rcases Bool.or_eq_true_iff.mp h with h | h
  · exact isBlank_of_isDigit h
  · rw [eq_of_beq h]
    rfl

theorem listsNames_begun {a : Text}
    (h : (a.head?.any fun c => Text.isDigit c || c == '\'') = true) (r : Text) :
    listsNames (' ' :: '(' :: (a ++ r)) = false := by
  cases a with
  | nil => cases h
  | cons c a =>
    have hc : (Text.isDigit c || c == '\'') = true := h
    rw [List.cons_append, listsNames_list (isBlank_begun hc), opensName_of_begun hc]

/-- Behind the type stands no list of columns: its arguments start otherwise. -/
theorem listsNames_type (k : KeyColumn) : listsNames (' ' :: (k.type ++ k.list)) = false := by
  obtain ⟨v, u, htype, hv, hu⟩ := exists_bare_of_dotted k.starts k.dotted
  have hbegun := k.begun
  have hskip : Text.skipBlanks (' ' :: (k.type ++ k.list)) = k.type ++ k.list :=
    skipBlanks_of_startsWord (startsWord_append_right k.starts k.list)
  have hend : Text.atWordEnd (u ++ k.list) = true := by
    rcases hu with rfl | ⟨t, rfl⟩
    · unfold list
      split <;> rfl
    · rfl
  have hname : skipName (k.type ++ k.list) = Text.skipBlanks (u ++ k.list) := by
    rw [skipName, htype, List.append_assoc, hv.name?_append hend]
  rw [listsNames, hskip, hname]
  rcases hu with rfl | ⟨t, rfl⟩
  · unfold list
    cases ha : k.arguments with
    | none => rfl
    | some a => exact listsNames_begun (hbegun a ha) [')']
  · rfl

theorem partKind_print (k : KeyColumn) : partKind k.print = .column := by
  obtain ⟨word, hword, hspells⟩ := k.named.exists_spells
  have hindex : isIndexLine k.print = false := by
    rw [print, isIndexLine_word k.named, k.listsNames_type]
  rw [print] at hindex ⊢
  rw [partKind_of_spells hword hspells, hindex]
  rfl

theorem definitionHead?_print (k : KeyColumn) :
    definitionHead? k.print = some (k.name, k.type ++ k.list) := by
  obtain ⟨word, hword, hspells⟩ := k.named.exists_spells
  have hskip : Text.skipBlanks (k.type ++ k.list) = k.type ++ k.list :=
    skipBlanks_of_startsWord (startsWord_append_right k.starts k.list)
  rw [print, definitionHead?_of_spells hword hspells, hskip]

end KeyColumn
theorem tableOf_ignored (hp : partKind p = .ignored) (name : Text) (before after : List Text) :
    tableOf name (before ++ p :: after) = tableOf name (before ++ after) := by
  have happly (t : Table) : applyPart t p = t := by rw [applyPart, hp]
  have hdeclare (t : Table) : declarePart t p = t := declarePart_of_ne (by rw [hp]; decide) t
  simp only [tableOf, List.foldl_append, List.foldl_cons, happly, hdeclare]

/-- The table has a column of a name; it is spelled like the name unless a definition that came
before has the same name. -/
def HasColumn (t : Table) (before : List Text) (n : Text) : Prop :=
  ∃ c, t.column? n = some c ∧
    ((∀ d ∈ definitionsIn before, sameName d.1 n = false) → c.name = n)

theorem hasColumn_of_definition {d : Text} (hp : partKind p = .column)
    (hd : definitionHead? p = some (n, d)) (name : Text) (before after : List Text) :
    HasColumn (tableOf name (before ++ p :: after)) before n := by
  have hfound : ((n, d) :: definitionsIn after).find? (sameName ·.1 n) = some (n, d) :=
    List.find?_cons_of_pos (by simp [sameName])
  have hdefinitions : definitionsIn (before ++ p :: after) =
      definitionsIn before ++ (n, d) :: definitionsIn after := by
    simp [definitionsIn, hp, hd]
  have hcolumn := column?_tableOf name (before ++ p :: after) n
  rw [hdefinitions, List.find?_append] at hcolumn
  cases hfirst : (definitionsIn before).find? (sameName ·.1 n) with
  | none =>
    rw [hfirst, Option.none_or, hfound, Option.map_some] at hcolumn
    obtain ⟨c, hc, heq⟩ := Option.map_eq_some_iff.mp hcolumn
    exact ⟨c, hc, fun _ => (Prod.mk.inj heq).1⟩
  | some e =>
    rw [hfirst, Option.some_or, Option.map_some] at hcolumn
    obtain ⟨c, hc, -⟩ := Option.map_eq_some_iff.mp hcolumn
    refine ⟨c, hc, fun hnew => ?_⟩
    have hsame := List.find?_some hfirst
    rw [hnew e (List.mem_of_find?_eq_some hfirst)] at hsame
    cases hsame

/-- A line of an index leaves no trace in the table where its list starts with a character by which
it is told apart; where the list starts otherwise, the line makes a column of its first word. A
column that is named by such a word, of a type whose arguments start with a number or a literal, is
always there. -/
theorem createTable_indexLine (name s : Text) (before after : List Text) :
    (∀ l : IndexLine, body? s = some (name, before ++ l.print :: after) →
      (l.isSeen = true → createTable s = .ok (some (tableOf name (before ++ after)))) ∧
      (l.isSeen = false → ∃ t, createTable s = .ok (some t) ∧ HasColumn t before l.front)) ∧
    ∀ k : KeyColumn, body? s = some (name, before ++ k.print :: after) →
      ∃ t, createTable s = .ok (some t) ∧ HasColumn t before k.name := by
  constructor
  · intro l hs
    have hkind := l.partKind_print
    constructor
    · intro hseen
      rw [hseen, if_pos rfl] at hkind
      exact createTable_eq_some_iff.mpr ⟨_, _, hs, tableOf_ignored hkind name before after⟩
    · intro hunseen
      rw [hunseen, if_neg Bool.false_ne_true] at hkind
      obtain ⟨d, hhead⟩ := l.definitionHead?_print
      exact ⟨_, createTable_eq_some_iff.mpr ⟨_, _, hs, rfl⟩,
        hasColumn_of_definition hkind hhead name before after⟩
  · intro k hs
    exact ⟨_, createTable_eq_some_iff.mpr ⟨_, _, hs, rfl⟩,
      hasColumn_of_definition k.partKind_print k.definitionHead?_print name before after⟩

/-- A table with a column named by a keyword and lines of an index that are told apart or not. -/
theorem createTable_indexLine_settings :
    let s := ("CREATE TABLE settings (key VARCHAR(64), FULLTEXT KEY größe (`key`, value), " ++
      "INDEX (élan))").toList
    createTable s = .ok (some (tableOf "settings".toList
      ["key VARCHAR(64)".toList, "INDEX (élan)".toList])) ∧
    (∃ t, createTable s = .ok (some t) ∧ HasColumn t
      ["key VARCHAR(64)".toList, "FULLTEXT KEY größe (`key`, value)".toList] "INDEX".toList) ∧
    ∃ t, createTable s = .ok (some t) ∧ HasColumn t [] "key".toList := by
  intro s
  let seen : IndexLine := ⟨some "FULLTEXT".toList, "KEY".toList, some "größe".toList,
    "`key`".toList, ["value".toList], by decide, by decide, by decide +kernel⟩
  let accented : IndexLine := ⟨none, "INDEX".toList, none, "élan".toList, [], by decide, by decide,
    by decide +kernel⟩
  let key : KeyColumn := ⟨"key".toList, "VARCHAR".toList, some "64".toList, by decide, by decide,
    by decide, by decide⟩
  have hseen := (createTable_indexLine "settings".toList s ["key VARCHAR(64)".toList]
    ["INDEX (élan)".toList]).1 seen (by decide +kernel)
  have haccented := (createTable_indexLine "settings".toList s
    ["key VARCHAR(64)".toList, "FULLTEXT KEY größe (`key`, value)".toList] []).1
      accented (by decide +kernel)
  have hkey := (createTable_indexLine "settings".toList s []
    ["FULLTEXT KEY größe (`key`, value)".toList, "INDEX (élan)".toList]).2 key (by decide +kernel)
  exact ⟨hseen.1 (by decide +kernel), haccented.2 (by decide +kernel), hkey⟩

/-- A list that starts with an accented letter is taken for the arguments of a type. -/
theorem createTable_accented_indexLine :
    let l : IndexLine := ⟨none, "KEY".toList, some "idx".toList, "élan".toList, [], by decide,
      by decide, by decide +kernel⟩
    let s := "CREATE TABLE t (élan INT, KEY idx (élan))".toList
    body? s = some (['t'], ["élan INT".toList, l.print]) ∧
    createTable s = .ok (some ⟨['t'], [{ name := "élan".toList, type := "INT".toList },
      { name := "KEY".toList, type := "idx(élan)".toList }]⟩) := by
  decide +kernel

end SchemaDiagram.Sql
