import SchemaDiagram.Proofs.Sql.Literals
import SchemaDiagram.Proofs.Sql.Spellings
import SchemaDiagram.Proofs.Sql.Tails

/-!
Enumerations. The scan of a body goes over a parenthesis in a literal, but the arguments of a type
are over at the first one that closes, in quotes or not, so an enumeration is kept as it stands
exactly when no member closes a parenthesis.
-/
namespace SchemaDiagram.Sql

variable {c : Char} {d : Int} {t p r name head : Text}

/-- A member of an enumeration, a literal in single quotes. -/
structure Member where
  content : Text
  unquoted : '\'' ∉ content
  unescaped : '\\' ∉ content
  blankless : Text.Blankless content

namespace Member

def print (m : Member) : Text := '\'' :: (m.content ++ ['\''])

theorem over_content (hd : 0 ≤ d) (hquote : '\'' ∉ t) (hslash : '\\' ∉ t) :
    Scan.Over (Scan.inLiteral d false) t (Scan.inLiteral d false) := by
  induction t with
  | nil => exact Scan.Over.nil _
  | cons c t ih =>
    obtain ⟨hc, hquote⟩ := not_or.mp (mt List.mem_cons.mpr hquote)
    obtain ⟨hc', hslash⟩ := not_or.mp (mt List.mem_cons.mpr hslash)
    have hfirst : Scan.Over (Scan.inLiteral d false) [c] (Scan.inLiteral d (c == '\\')) :=
      Scan.over_inLiteral hd fun h => absurd h.symm hc
    rw [beq_false_of_ne (Ne.symm hc')] at hfirst
    exact hfirst.append (ih hquote hslash)

theorem over_print (hd : 0 ≤ d) (m : Member) :
    Scan.Over (Scan.level d) m.print (Scan.level d) :=
  (Scan.over_open rfl hd).append
    ((over_content hd m.unquoted m.unescaped).append (Scan.over_close rfl hd))

theorem mem_print (hc : c ≠ '\'') (m : Member) : c ∈ m.print ↔ c ∈ m.content := by
  simp [print, hc]

theorem blankless_print (m : Member) : Text.Blankless m.print := by
  intro c hc
  by_cases hquote : c = '\''
  · rw [hquote]
    rfl
  · exact m.blankless c ((m.mem_print hquote).mp hc)

end Member

/-- A type that lists its members. -/
structure Enumeration where
  first : Member
  rest : List Member

namespace Enumeration

variable {e : Enumeration}

def members (e : Enumeration) : List Member := e.first :: e.rest

def list (e : Enumeration) : Text := Text.join [','] (e.members.map Member.print)

def type (e : Enumeration) : Text := "ENUM".toList ++ '(' :: (e.list ++ [')'])

/-- The type up to the first parenthesis that closes. -/
def opening (e : Enumeration) : Text := e.type.takeWhile (· != ')') ++ [')']

theorem closed_mem_list (e : Enumeration) : ')' ∈ e.list ↔ ∃ m ∈ e.members, ')' ∈ m.content := by
  constructor
  · intro h
    by_contra hnone
    refine Text.not_mem_join (by decide) (fun p hp => ?_) h
    obtain ⟨m, hm, rfl⟩ := List.mem_map.mp hp
    rw [m.mem_print (by decide)]
    exact fun hc => hnone ⟨m, hm, hc⟩
  · rintro ⟨m, hm, hc⟩
    exact Text.mem_join (List.mem_map_of_mem hm) ((m.mem_print (by decide)).mpr hc)

theorem blankless_list (e : Enumeration) : Text.Blankless e.list := by
  refine Text.forall_mem_join (List.forall_mem_singleton.mpr rfl) fun p hp => ?_
  obtain ⟨m, -, rfl⟩ := List.mem_map.mp hp
  exact m.blankless_print

theorem blankless_type (e : Enumeration) : Text.Blankless e.type := by
  have hword : ∀ c ∈ "ENUM".toList, Text.isWord c = true := List.all_eq_true.mp (by decide)
  intro c hc
  have hc : c ∈ "ENUM".toList ∨ c = '(' ∨ c ∈ e.list ∨ c = ')' := by
    simpa only [type, List.mem_append, List.mem_cons, List.not_mem_nil, or_false] using hc
  rcases hc with hc | rfl | hc | rfl
  · exact isBlank_of_isWord (hword c hc)
  · rfl
  · exact e.blankless_list c hc
  · rfl

/-- The arguments end where the type first closes a parenthesis. -/
theorem typeWord?_type (e : Enumeration) (r : Text) : ∃ behind, e.type ++ r = e.opening ++ behind ∧
    typeWord? (e.type ++ r) = some ("ENUM".toList,
      e.opening ++ (arraySuffixes behind).1, (arraySuffixes behind).2) := by
  obtain ⟨front, back, hlist, hfront⟩ :=
    List.eq_append_cons_of_mem (show ')' ∈ e.list ++ [')'] by simp)
  have htype : e.type = "ENUM(".toList ++ front ++ ')' :: back := by
    rw [type, hlist]
    simp
  have hfirst : ')' ∉ "ENUM(".toList ++ front := by simp [hfront]
  have hopening : e.opening = "ENUM".toList ++ '(' :: (front ++ [')']) := by
    rw [opening, htype, Text.takeWhile_ne hfirst]
    simp
  have hblankless : Text.Blankless front := fun c hc => e.blankless_type c (by simp [htype, hc])
  have hread : e.type ++ r = "ENUM".toList ++ '(' :: (front ++ ')' :: (back ++ r)) := by
    simp [htype]
  refine ⟨back ++ r, by simp [hread, hopening], ?_⟩
  have hword : dottedWord ("ENUM".toList ++ '(' :: (front ++ ')' :: (back ++ r))) =
      ("ENUM".toList, '(' :: (front ++ ')' :: (back ++ r))) := rfl
  have harguments := typeArguments_list (Text.squeeze_of_blankless hblankless) hfront (back ++ r)
  have hskip : Text.skipBlanks ("ENUM".toList ++ '(' :: (front ++ ')' :: (back ++ r))) =
      "ENUM".toList ++ '(' :: (front ++ ')' :: (back ++ r)) := rfl
  have hstarts : startsWord ("ENUM".toList ++ '(' :: (front ++ ')' :: (back ++ r))) = true := rfl
  simp only [typeWord?, hread, hskip, hstarts, if_true, hword, harguments, hopening,
    List.append_assoc]

/-- Where no member closes a parenthesis, nothing of the type is left out. -/
theorem opening_eq_type (h : ')' ∉ e.list) : e.opening = e.type := by
  have htype : e.type = "ENUM(".toList ++ e.list ++ ')' :: [] := by simp [type]
  have hlist : ')' ∉ "ENUM(".toList ++ e.list := by simp [h]
  rw [opening, htype, Text.takeWhile_ne hlist]

theorem not_mem_of_spelling (u : Spelling) (h : u.text = e.type) : ')' ∉ e.list := by
  have hcount := u.count_close_text
  rw [h, type, List.count_append, List.count_cons_of_ne (by decide), List.count_append,
    List.count_singleton_self] at hcount
  exact List.count_eq_zero.mp (by omega)

/-- An enumeration is kept up to the first parenthesis that closes, and as it stands when no member
holds that parenthesis. -/
theorem columnType_type (hr : TypeEnd r) (e : Enumeration) :
    e.opening <+: columnType (e.type ++ r) ∧
      (columnType (e.type ++ r) = e.type ↔ ∀ m ∈ e.members, ')' ∉ m.content) := by
  obtain ⟨behind, hbehind, hread⟩ := e.typeWord?_type r
  have hstop : isTypeStop "ENUM".toList = false := by decide
  have hset : atCharacterSet (e.type ++ r) = false := rfl
  have htype : columnType (e.type ++ r) = Text.join [' ']
      ((e.opening ++ (arraySuffixes behind).1) :: typeWords (arraySuffixes behind).2) := by
    rw [columnType, typeWords_of_some hread, hstop, hset]
    rfl
  have hlist : (∀ m ∈ e.members, ')' ∉ m.content) ↔ ')' ∉ e.list := by
    rw [closed_mem_list]
    simp
  rw [htype, hlist]
  constructor
  · obtain ⟨t, ht⟩ := Text.exists_join [' '] (e.opening ++ (arraySuffixes behind).1)
      (typeWords (arraySuffixes behind).2)
    rw [ht, List.append_assoc]
    exact List.prefix_append _ _
  constructor
  · intro hkept
    obtain ⟨u, -, -, hu, -⟩ := exists_spelling hread
    cases hwords : typeWords (arraySuffixes behind).2 with
    | nil =>
      rw [hwords] at hkept
      exact not_mem_of_spelling u (hu.trans hkept)
    | cons s ss =>
      rw [hwords] at hkept
      have hblank : ' ' ∈ e.type := by
        rw [← hkept]
        simp [Text.join]
      exact absurd (e.blankless_type _ hblank) (by decide)
  · intro hclose
    rw [opening_eq_type hclose] at hbehind ⊢
    obtain rfl := List.append_cancel_left hbehind
    rw [arraySuffixes_of_bare fun c hc => (hr.parting.bare c hc).2, hr.typeWords_eq]
    exact List.append_nil _

theorem over_type (e : Enumeration) : Scan.Over (Scan.level 0) e.type (Scan.level 0) := by
  have hword : Scan.Over (Scan.level 0) "ENUM".toList (Scan.level 0) :=
    Scan.over_plain rfl (by decide) (by decide)
  have hcomma : Scan.Over (Scan.level 1) [','] (Scan.level 1) :=
    Scan.over_still rfl (by decide) (List.forall_mem_singleton.mpr rfl) fun _ => rfl
  have hlist : Scan.Over (Scan.level 1) e.list (Scan.level 1) := by
    refine Scan.over_join hcomma fun p hp => ?_
    obtain ⟨m, -, rfl⟩ := List.mem_map.mp hp
    exact m.over_print (by decide)
  exact hword.append (Scan.over_parentheses (Int.le_refl 0) hlist)

theorem closes_type (e : Enumeration) : Closes e.type :=
  ⟨"ENUM".toList ++ '(' :: e.list, ')', by simp [type], by decide⟩

end Enumeration

/-- A body that a scan goes over is one part. -/
theorem createTable_of_over (hhead : createHead? (head ++ ['(']) = some (name, []))
    (hp : Scan.Over {} p {}) (hne : Text.allBlank p = false) (rest : Text) :
    createTable (head ++ '(' :: (p ++ ')' :: rest)) = .ok (some (tableOf name [Text.trim p])) := by
  have hread := createHead?_append hhead (p ++ ')' :: rest)
  rw [List.append_assoc, List.singleton_append, List.nil_append] at hread
  have hbody : Scan.body? { depth := 1 } (p ++ ')' :: rest) = some (p, rest) := by
    refine hp.body?.trans ?_
    have hend : ({} : Scan).within.body? (')' :: rest) = some ([], rest) := rfl
    rw [hend, Option.map_some, List.append_nil]
  have hparts : parts p = [Text.trim p] := by
    rw [parts, hp.pieces_eq, partsOf, if_neg (by simp [hne])]
  rw [createTable, hread]
  simp only [hbody, hparts]

theorem tableOf_column {c : Column} (hkind : partKind p = .column) (hc : column? p = some c) :
    tableOf name [p] = ⟨name, [c]⟩ := by
  have hdeclare : declarePart { name } p = ⟨name, [c]⟩ := by
    rw [declarePart, hkind, hc]
    rfl
  have happly : applyPart ⟨name, [c]⟩ p = ⟨name, [c]⟩ := by rw [applyPart, hkind]
  simp only [tableOf, List.foldl_cons, List.foldl_nil, hdeclare, happly]

namespace Enumeration

/-- The definition of a column of the enumeration, and what comes behind its type. -/
def definition (e : Enumeration) (r : Text) : Text := 'c' :: ' ' :: (e.type ++ r)

theorem trim_definition (e : Enumeration) (hr : r = [] ∨ Closes r) (blanks : Text)
    (hb : Text.allBlank blanks = true) :
    Text.trim (e.definition (r ++ blanks)) = e.definition r := by
  have hcloses : Closes (e.definition r) := (e.closes_type.append hr).after ['c', ' ']
  have htext : e.definition (r ++ blanks) = e.definition r ++ blanks := by simp [definition]
  have hskip : Text.skipBlanks (e.definition (r ++ blanks)) = e.definition (r ++ blanks) := rfl
  rw [Text.trim, hskip, htext, hcloses.trimEnd hb]

theorem over_definition (e : Enumeration) (hr : Scan.Over {} r {}) :
    Scan.Over {} (e.definition r) {} := by
  have hname : Scan.Over (Scan.level 0) ['c', ' '] (Scan.level 0) :=
    Scan.over_still rfl (Int.le_refl 0) (List.all_eq_true.mp (by decide))
      fun h => absurd h (by decide)
  exact hname.append (e.over_type.append hr)

theorem column?_definition (e : Enumeration) (hr : TypeEnd r) :
    ∃ c, column? (e.definition r) = some c ∧ c.name = ['c'] ∧
      c.type = columnType (e.type ++ r) := by
  have hhead : definitionHead? (e.definition r) = some (['c'], e.type ++ r) := rfl
  have hne : columnType (e.type ++ r) ≠ [] := by
    obtain ⟨⟨t, ht⟩, -⟩ := e.columnType_type hr
    rw [← ht, opening]
    simp
  refine ⟨columnOf (e.definition r) ['c'] (columnType (e.type ++ r)), ?_,
    columnOf_name_type _ _ _⟩
  rw [column?, hhead]
  simp [hne]

/-- What comes behind a type ends it once the blanks at its end are gone. -/
theorem exists_trim (e : Enumeration) {tail : Text}
    (htail : tail ∈ [[], [' '], " NOT NULL".toList]) :
    Scan.Over {} tail {} ∧ ∃ r, TypeEnd r ∧ Text.trim (e.definition tail) = e.definition r := by
  have hblank : Scan.Over {} [' '] {} := Scan.over_mark rfl (Int.le_refl 0) rfl (by decide)
  simp only [List.mem_cons, List.not_mem_nil, or_false] at htail
  rcases htail with rfl | rfl | rfl
  · exact ⟨Scan.Over.nil _, [], .nothing, e.trim_definition (Or.inl rfl) [] rfl⟩
  · exact ⟨hblank, [], .nothing, e.trim_definition (Or.inl rfl) [' '] rfl⟩
  · have hover : Scan.Over {} " NOT NULL".toList {} :=
      Scan.over_still rfl (Int.le_refl 0) (List.all_eq_true.mp (by decide))
        fun h => absurd h (by decide)
    have hcloses : Closes " NOT NULL".toList := ⟨" NOT NUL".toList, 'L', rfl, by decide⟩
    have hletters : ∀ c ∈ "NOT".toList, Text.isWord c = true := List.all_eq_true.mp (by decide)
    have hended : ∀ c ∈ " NULL".toList.head?, Text.isWord c = false ∧ c ≠ '.' := by
      rintro c ⟨⟩
      decide
    have hend : TypeEnd ([' '] ++ ("NOT".toList ++ " NULL".toList)) :=
      .stop (List.cons_ne_nil _ _) rfl hletters (by decide) hended
    exact ⟨hover, _, hend, e.trim_definition (Or.inr hcloses) [] rfl⟩

/-- A column of an enumeration keeps its type up to the first parenthesis that closes, hence as it
stands exactly when no member holds one. -/
theorem createTable_enumeration (e : Enumeration) {tail : Text}
    (htail : tail ∈ [[], [' '], " NOT NULL".toList]) :
    ∃ c, createTable ("CREATE TABLE t (c ".toList ++ (e.type ++ (tail ++ [')']))) =
        .ok (some ⟨['t'], [c]⟩) ∧ c.name = ['c'] ∧ e.opening <+: c.type ∧
      (c.type = e.type ↔ ∀ m ∈ e.members, ')' ∉ m.content) := by
  obtain ⟨hover, r, hr, htrim⟩ := e.exists_trim htail
  obtain ⟨c, hcolumn, hname, htype⟩ := e.column?_definition hr
  have hhead : createHead? ("CREATE TABLE t ".toList ++ ['(']) = some (['t'], []) := by
    decide +kernel
  have hread := createTable_of_over hhead (e.over_definition hover) rfl []
  rw [htrim, tableOf_column rfl hcolumn] at hread
  refine ⟨c, ?_, hname, ?_⟩
  · rw [← hread]
    simp [definition]
  · rw [htype]
    exact e.columnType_type hr

/-- Members may hold all the other marks that a body or a name goes by. -/
theorem createTable_enumeration_marks :
    let e : Enumeration := ⟨⟨"so,(so".toList, by decide, by decide, by decide⟩,
      [⟨[], by decide, by decide, by decide⟩, ⟨"\"[`;".toList, by decide, by decide, by decide⟩]⟩
    e.type = "ENUM('so,(so','','\"[`;')".toList ∧ " NOT NULL".toList ∈ [[], [' '], " NOT NULL".toList] ∧
    ∃ c, createTable "CREATE TABLE t (c ENUM('so,(so','','\"[`;') NOT NULL)".toList =
      .ok (some ⟨['t'], [c]⟩) ∧ c.name = ['c'] ∧ c.type = e.type := by
  intro e
  have htail : " NOT NULL".toList ∈ [[], [' '], " NOT NULL".toList] := by decide
  have hopen : ∀ m ∈ e.members, ')' ∉ m.content := by decide
  obtain ⟨c, hc, hname, -, htype⟩ := e.createTable_enumeration htail
  exact ⟨by decide, htail, c, hc, hname, htype.mpr hopen⟩

/-- The type of a member that closes a parenthesis is cut there, and the rest is taken for a word. -/
theorem createTable_closing_member :
    let e : Enumeration := ⟨⟨"a)b".toList, by decide, by decide, by decide⟩, []⟩
    "CREATE TABLE t (c ".toList ++ (e.type ++ [')']) = "CREATE TABLE t (c ENUM('a)b'))".toList ∧
    createTable ("CREATE TABLE t (c ".toList ++ (e.type ++ [')'])) =
      .ok (some ⟨['t'], [{ name := ['c'], type := "ENUM('a) b".toList }]⟩) ∧
    "ENUM('a) b".toList ≠ e.type := by
  decide +kernel

end Enumeration
end SchemaDiagram.Sql
