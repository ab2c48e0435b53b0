import SchemaDiagram.Proofs.Text.Cutting
import SchemaDiagram.Sql.ColumnList

/-!
Names in quotes. A plain word in any of the three kinds of quotes is read back as that word: alone,
behind its qualifiers, and in a list.
-/
namespace SchemaDiagram.Sql

variable {r : Text} {c : Char}

/-- The quotes that names stand in. -/
inductive Quotes where
  | backticks
  | doubleQuotes
  | brackets
deriving DecidableEq

namespace Quotes

def opener : Quotes → Char
  | backticks => '\x60'
  | doubleQuotes => '"'
  | brackets => '['

def closer : Quotes → Char
  | backticks => '\x60'
  | doubleQuotes => '"'
  | brackets => ']'

theorem closer?_opener (q : Quotes) : closer? q.opener = some q.closer := by
  cases q <;> rfl

theorem exists_of_closer? {close : Char} (h : closer? c = some close) :
    ∃ q : Quotes, q.opener = c ∧ q.closer = close := by
  unfold closer? at h
  split at h
  · next hc => exact ⟨backticks, hc.symm, Option.some.inj h⟩
  split at h
  · next hc => exact ⟨doubleQuotes, hc.symm, Option.some.inj h⟩
  split at h
  · next hc => exact ⟨brackets, hc.symm, Option.some.inj h⟩
  · cases h

theorem isWord_opener (q : Quotes) : Text.isWord q.opener = false := by
  cases q <;> rfl

theorem isWord_closer (q : Quotes) : Text.isWord q.closer = false := by
  cases q <;> rfl

theorem atWordEnd_closer (q : Quotes) {r : Text} : Text.atWordEnd (q.closer :: r) = true := by
  simp [Text.atWordEnd, q.isWord_closer]

theorem isPlain_closer (q : Quotes) : Text.isPlain q.closer = false := by
  cases q <;> rfl

theorem isBlank_opener (q : Quotes) : Text.isBlank q.opener = false := by
  cases q <;> rfl

theorem isBlank_closer (q : Quotes) : Text.isBlank q.closer = false := by
  cases q <;> rfl

/-- A word in quotes. -/
def around (q : Quotes) (w : Text) : Text := q.opener :: w ++ [q.closer]

theorem around_append (q : Quotes) (w r : Text) :
    q.around w ++ r = q.opener :: (w ++ q.closer :: r) := by
  simp [around]

theorem trim_around (q : Quotes) (w : Text) : Text.trim (q.around w) = q.around w :=
  Text.trim_of_ends q.isBlank_opener q.isBlank_closer

theorem unquote_around (q : Quotes) (w : Text) : unquote (q.around w) = w := by
  simp only [unquote, trim_around]
  cases w with
  | nil => cases q <;> rfl
  | cons c w =>
    have hlast : ∀ h, (c :: (w ++ [q.closer])).getLast h = q.closer := by
      intro h
      simp only [← List.cons_append, List.getLast_concat]
    have hinner : (c :: (w ++ [q.closer])).dropLast = c :: w := by
      rw [← List.cons_append, List.dropLast_concat]
    simp only [around, List.cons_append, q.closer?_opener, hlast, hinner, if_true]

theorem name?_around_of_not_mem (q : Quotes) {w : Text} (hne : w ≠ []) (hw : q.closer ∉ w) :
    name? (q.around w ++ r) = some (q.around w, r) := by
  have hread : enclosed? q.closer (w ++ q.closer :: r) = some (w ++ [q.closer], r) := by
    obtain ⟨c, w, rfl⟩ := List.exists_cons_of_ne_nil hne
    simp only [enclosed?, Text.takeWhile_ne hw, Text.dropWhile_ne hw]
  rw [around_append]
  simp only [name?, q.closer?_opener, hread]
  rfl

theorem name?_around (q : Quotes) {w : Text} (hne : w ≠ []) (hw : Text.Plain w) :
    name? (q.around w ++ r) = some (q.around w, r) :=
  q.name?_around_of_not_mem hne (hw.not_mem q.isPlain_closer)

end Quotes

/-- A plain word in quotes. -/
structure QuotedName where
  quotes : Quotes
  word : Text
  nonempty : word ≠ []
  plain : Text.Plain word

/-- A quoted name with the quoted names of the scopes that it lies in. -/
structure QualifiedName where
  scope : List QuotedName
  name : QuotedName

/-- One quoted name or more. -/
structure NameList where
  first : QuotedName
  rest : List QuotedName

namespace QuotedName

def print (n : QuotedName) : Text := n.quotes.around n.word

theorem not_mem_print (n : QuotedName) (hc : Text.isPlain c = false) (ho : c ≠ n.quotes.opener)
    (hcl : c ≠ n.quotes.closer) : c ∉ n.print := by
  simp [print, Quotes.around, n.plain.not_mem hc, ho, hcl]

theorem name?_print (n : QuotedName) : name? (n.print ++ r) = some (n.print, r) :=
  n.quotes.name?_around n.nonempty n.plain

theorem trim_print (n : QuotedName) : Text.trim n.print = n.print := n.quotes.trim_around n.word

theorem unquote_print (n : QuotedName) : unquote n.print = n.word := n.quotes.unquote_around n.word

theorem listedName_print (n : QuotedName) : listedName n.print = n.word := by
  have hopen : (closer? n.quotes.opener).isSome = true := by
    rw [n.quotes.closer?_opener, Option.isSome_some]
  rw [← n.unquote_print]
  exact if_pos hopen

end QuotedName

theorem closer?_of_isWord (hc : Text.isWord c = true) : closer? c = none := by
  have hne (e : Char) (he : Text.isWord e = false) : c ≠ e := by
    rintro rfl
    simp [hc] at he
  rw [closer?, if_neg (hne _ (by decide)), if_neg (hne _ (by decide)), if_neg (hne _ (by decide))]

/-- A list in parentheses ends at the first closing one. -/
theorem parenthesised?_of_not_mem {list : Text} (hne : list ≠ []) (h : ')' ∉ list) (r : Text) :
    parenthesised? ('(' :: (list ++ ')' :: r)) = some (list, r) := by
  obtain ⟨c, list, rfl⟩ := List.exists_cons_of_ne_nil hne
  simp only [parenthesised?, Text.takeWhile_ne h, Text.dropWhile_ne h]

/-- Items with a comma and a blank between them are read one by one. -/
theorem listedNames_join {items : List Text}
    (h : ∀ item ∈ items, item ≠ [] ∧ ',' ∉ item ∧ Text.trim item = item) :
    listedNames (Text.join [',', ' '] items) = items.map listedName := by
  cases items with
  | nil => rfl
  | cons item items =>
    have hcomma : ∀ other ∈ item :: items, ',' ∉ other := fun other hm => (h other hm).2.1
    have htrim : (item :: items.map (' ' :: ·)).map Text.trim = item :: items := by
      obtain ⟨⟨-, -, hitem⟩, hitems⟩ := List.forall_mem_cons.mp h
      have hid : ∀ other ∈ items, (Text.trim ∘ (' ' :: ·)) other = id other := fun other hm =>
        (Text.trim_blank rfl).trans (hitems other hm).2.2
      rw [List.map_cons, List.map_map, hitem, List.map_congr_left hid, List.map_id]
    have hfilter : (item :: items).filter (!·.isEmpty) = item :: items :=
      List.filter_eq_self.mpr fun other hm => by simp [(h other hm).1]
    rw [listedNames, Text.splitAt_join hcomma (by decide), htrim, hfilter]

theorem qualified_of_dot {t rest rest' name : Text} (h : name? t = some (name, rest))
    (hd : dot? rest = some rest') : qualified t = qualified rest' ++ [(name, rest)] := by
  rw [qualified]
  split
  · simp_all
  · next he =>
    rw [h] at he
    cases he
    split
    · simp_all
    · next hd' =>
      rw [hd] at hd'
      cases hd'
      rfl

theorem qualified_of_end {t rest name : Text} (h : name? t = some (name, rest))
    (hd : dot? rest = none) : qualified t = [(name, rest)] := by
  rw [qualified]
  split
  · simp_all
  · next he =>
    rw [h] at he
    cases he
    split
    · rfl
    · simp_all

namespace QualifiedName

def print (n : QualifiedName) : Text :=
  n.scope.flatMap (fun qualifier => qualifier.print ++ ['.']) ++ n.name.print

theorem print_cons (q : QuotedName) (scope : List QuotedName) (name : QuotedName) :
    print ⟨q :: scope, name⟩ = q.print ++ '.' :: print ⟨scope, name⟩ := by
  simp [print]

theorem not_mem_print (n : QualifiedName) (hc : Text.isPlain c = false)
    (hq : ∀ q : Quotes, c ≠ q.opener ∧ c ≠ q.closer) (hdot : c ≠ '.') : c ∉ n.print := by
  have hname : ∀ q : QuotedName, c ∉ q.print := fun q => q.not_mem_print hc (hq _).1 (hq _).2
  simp [print, hname, hdot]

/-- A name starts with the quotes of its first qualifier, or its own. -/
theorem exists_opener (n : QualifiedName) :
    ∃ (q : Quotes) (t : Text), n.print = q.opener :: t := by
  obtain ⟨scope, name⟩ := n
  cases scope with
  | nil => exact ⟨name.quotes, _, rfl⟩
  | cons q scope =>
    exact ⟨q.quotes, _, (print_cons q scope name).trans (q.quotes.around_append _ _)⟩

theorem skipBlanks_print (n : QualifiedName) (r : Text) :
    Text.skipBlanks (n.print ++ r) = n.print ++ r := by
  obtain ⟨q, t, hn⟩ := n.exists_opener
  rw [hn, List.cons_append, Text.skipBlanks_cons q.isBlank_opener]

/-- The longest reading of a name with its qualifiers is the whole chain. -/
theorem head?_qualified_print (n : QualifiedName) (hr : dot? r = none) :
    (qualified (n.print ++ r)).head? = some (n.name.print, r) := by
  obtain ⟨scope, name⟩ := n
  induction scope with
  | nil =>
    change (qualified (name.print ++ r)).head? = _
    rw [qualified_of_end name.name?_print hr]
    rfl
  | cons q scope ih =>
    have hdot : dot? ('.' :: (print ⟨scope, name⟩ ++ r)) = some (print ⟨scope, name⟩ ++ r) := by
      rw [dot?, Text.skipBlanks_cons (by decide)]
      simp only [skipBlanks_print]
    rw [print_cons, List.append_assoc, List.cons_append, qualified_of_dot q.name?_print hdot,
      List.head?_append, ih]
    rfl

end QualifiedName

namespace NameList

def names (l : NameList) : List QuotedName := l.first :: l.rest

def words (l : NameList) : List Text := l.names.map (·.word)

/-- The names with a comma and a blank between them. -/
def print (l : NameList) : Text := Text.join [',', ' '] (l.names.map QuotedName.print)

theorem not_mem_print (l : NameList) (hc : Text.isPlain c = false)
    (hq : ∀ q : Quotes, c ≠ q.opener ∧ c ≠ q.closer) (hs : c ∉ [',', ' ']) : c ∉ l.print := by
  apply Text.not_mem_join hs
  intro p hp
  obtain ⟨n, -, rfl⟩ := List.mem_map.mp hp
  exact n.not_mem_print hc (hq _).1 (hq _).2

theorem exists_opener (l : NameList) : ∃ (q : Quotes) (t : Text), l.print = q.opener :: t := by
  obtain ⟨t, ht⟩ := Text.exists_join [',', ' '] l.first.print (l.rest.map QuotedName.print)
  exact ⟨l.first.quotes, _, ht.trans (l.first.quotes.around_append _ _)⟩

theorem print_ne_nil (l : NameList) : l.print ≠ [] := by
  obtain ⟨q, t, hl⟩ := l.exists_opener
  rw [hl]
  exact List.cons_ne_nil _ _

theorem parenthesis_not_mem_print (l : NameList) : ')' ∉ l.print :=
  l.not_mem_print (by decide) (by intro q; cases q <;> decide) (by decide)

theorem parenthesised?_print (l : NameList) :
    parenthesised? ('(' :: (l.print ++ ')' :: r)) = some (l.print, r) :=
  parenthesised?_of_not_mem l.print_ne_nil l.parenthesis_not_mem_print r

theorem listedNames_print (l : NameList) : listedNames l.print = l.words := by
  have hitems : ∀ item ∈ l.names.map QuotedName.print,
      item ≠ [] ∧ ',' ∉ item ∧ Text.trim item = item := by
    intro item hm
    obtain ⟨n, -, rfl⟩ := List.mem_map.mp hm
    refine ⟨List.cons_ne_nil _ _, ?_, n.trim_print⟩
    exact n.not_mem_print (by decide) (by cases n.quotes <;> decide) (by cases n.quotes <;> decide)
  rw [print, listedNames_join hitems, List.map_map]
  exact List.map_congr_left fun n _ => n.listedName_print

end NameList
end SchemaDiagram.Sql
