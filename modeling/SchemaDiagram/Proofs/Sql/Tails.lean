import SchemaDiagram.Proofs.Sql.Scanning
import SchemaDiagram.Proofs.Text.Searching

/-!
Statements that go on. Nothing that follows the column list of a table is read: the keywords in
front hold no parenthesis, the name stands right before one, and the scan of the list ends at the
one that closes it.
-/
namespace SchemaDiagram

variable {t r : Text} {k : String} {read next : Text → Option Text}

namespace Text

/-- What comes behind a parenthesis neither decides what is read in front of it nor is read. -/
def StopsAtParenthesis (read : Text → Option Text) : Prop :=
  ∀ w, (∀ r, read (w ++ '(' :: r) = none) ∨ ∃ w', ∀ r, read (w ++ '(' :: r) = some (w' ++ '(' :: r)

theorem StopsAtParenthesis.bind (h : StopsAtParenthesis read) (hn : StopsAtParenthesis next) :
    StopsAtParenthesis fun t => read t >>= next := by
  intro w
  rcases h w with hread | ⟨w', hread⟩
  · exact Or.inl fun r => by simp only [hread, Option.bind_eq_bind, Option.bind_none]
  · simp only [hread, Option.bind_eq_bind, Option.bind_some]
    exact hn w'

theorem StopsAtParenthesis.or (h : StopsAtParenthesis read) (hn : StopsAtParenthesis next) :
    StopsAtParenthesis fun t => (read t).or (next t) := by
  intro w
  rcases h w with hread | ⟨w', hread⟩
  · simp only [hread, Option.none_or]
    exact hn w
  · exact Or.inr ⟨w', fun r => by simp only [hread, Option.some_or]⟩

theorem StopsAtParenthesis.skipped (h : StopsAtParenthesis read) :
    StopsAtParenthesis fun t => some ((read t).getD t) := by
  intro w
  rcases h w with hread | ⟨w', hread⟩
  · exact Or.inr ⟨w, fun r => by simp only [hread, Option.getD_none]⟩
  · exact Or.inr ⟨w', fun r => by simp only [hread, Option.getD_some]⟩

theorem StopsAt.stopsAtParenthesis (h : StopsAt '(' read) : StopsAtParenthesis read := by
  intro w
  cases hw : read w with
  | none => exact Or.inl fun r => by rw [h w r, hw]; rfl
  | some w' => exact Or.inr ⟨w', fun r => by rw [h w r, hw]; rfl⟩

theorem stopsAtParenthesis_keywordGap? (hk : '(' ∉ k.toList) :
    StopsAtParenthesis (keywordGap? k) :=
  (stopsAt_keywordGap? (show capital '(' ∉ k.toList from hk) (by decide)).stopsAtParenthesis

end Text

namespace Sql

variable {name body : Text} {found : Text × Text}

/-- What stands behind the keywords of a statement that creates a table. -/
def afterKeywords? (statement : Text) : Option Text :=
  Text.keywordGap? "CREATE" statement >>= (fun t => some (skipTemporary t)) >>=
    Text.keywordGap? "TABLE" >>= fun t => some (skipIfNotExists t)

theorem stopsAtParenthesis_afterKeywords? : Text.StopsAtParenthesis afterKeywords? := by
  have hkeyword {k : String} (hk : '(' ∉ k.toList) := Text.stopsAtParenthesis_keywordGap? hk
  have htemporary : Text.StopsAtParenthesis fun t => some (skipTemporary t) :=
    ((hkeyword (by decide)).or (hkeyword (by decide))).skipped
  have hcondition : Text.StopsAtParenthesis fun t => some (skipIfNotExists t) :=
    (((hkeyword (by decide)).bind (hkeyword (by decide))).bind (hkeyword (by decide))).skipped
  exact (((hkeyword (by decide)).bind htemporary).bind (hkeyword (by decide))).bind hcondition

/-- The name of a table in front of a parenthesis, and what follows it. -/
def openedName? (t : Text) : Option (Text × Text) := do
  let (name, rest) ← (qualified t).head?
  match Text.skipBlanks rest with
  | '(' :: body => some (unquote name, body)
  | _ => none

theorem createHead?_eq (statement : Text) :
    createHead? statement = afterKeywords? statement >>= openedName? := by
  simp only [createHead?, afterKeywords?, Option.bind_eq_bind, Option.bind_assoc,
    Option.bind_some]
  rfl

theorem enclosed?_append {close : Char} (h : enclosed? close t = some found) (u : Text) :
    enclosed? close (t ++ u) = some (found.1, found.2 ++ u) := by
  unfold enclosed? at h
  split at h
  · next c content d rest htake hdrop =>
    cases h
    have hstops : t.dropWhile (· != close) ≠ [] := hdrop ▸ List.cons_ne_nil d rest
    rw [enclosed?, Text.takeWhile_append_of_stops hstops, Text.dropWhile_append_of_stops hstops,
      htake, hdrop]
    rfl
  · cases h

theorem word?_append (h : Text.word? t = some (name, r)) (hr : r ≠ []) (u : Text) :
    Text.word? (t ++ u) = some (name, r ++ u) := by
  unfold Text.word? Text.word at h ⊢
  cases hword : t.takeWhile Text.isWord with
  | nil =>
    rw [hword] at h
    cases h
  | cons c w =>
    rw [hword] at h
    cases h
    rw [Text.takeWhile_append_of_stops hr, Text.dropWhile_append_of_stops hr, hword]

/-- A name ends where it ends before, unless it is a word that reaches the end of the text. -/
theorem name?_append (h : name? t = some (name, r)) (hr : r ≠ []) (u : Text) :
    name? (t ++ u) = some (name, r ++ u) := by
  cases t with
  | nil => cases h
  | cons c t =>
    rw [List.cons_append, name?]
    rw [name?] at h
    split at h
    · obtain ⟨inner, hinner, heq⟩ := Option.map_eq_some_iff.mp h
      cases heq
      rw [enclosed?_append hinner]
      rfl
    · exact word?_append h hr u

theorem skipBlanks_append_of_stops (h : Text.skipBlanks t ≠ []) (u : Text) :
    Text.skipBlanks (t ++ u) = Text.skipBlanks t ++ u := Text.dropWhile_append_of_stops h u

theorem dot?_append (h : dot? t = some r) (hr : r ≠ []) (u : Text) :
    dot? (t ++ u) = some (r ++ u) := by
  unfold dot? at h
  split at h
  · next rest hrest =>
    cases h
    have hstops : Text.skipBlanks t ≠ [] := hrest ▸ List.cons_ne_nil '.' rest
    rw [dot?, skipBlanks_append_of_stops hstops, hrest, List.cons_append]
    exact congrArg some (skipBlanks_append_of_stops hr u)
  · cases h

theorem dot?_of_parenthesis (h : Text.skipBlanks t = '(' :: body) : dot? t = none := by
  rw [dot?, h]
  rfl

/-- The longest chain of names that stands before a parenthesis stays the longest one. -/
theorem head?_qualified_append (h : (qualified t).head? = some (name, r))
    (hr : Text.skipBlanks r = '(' :: body) (u : Text) :
    (qualified (t ++ u)).head? = some (name, r ++ u) := by
  have hne : r ≠ [] := by
    rintro rfl
    cases hr
  fun_induction qualified t with
  | case1 => cases h
  | case2 t first rest hname hdot =>
    cases h
    have hopen : Text.skipBlanks (r ++ u) = '(' :: (body ++ u) := by
      rw [skipBlanks_append_of_stops (hr ▸ List.cons_ne_nil '(' body), hr, List.cons_append]
    rw [qualified_of_end (name?_append hname hne u) (dot?_of_parenthesis hopen)]
    rfl
  | case3 t first rest hname rest' hdot _ ih =>
    rw [List.head?_append] at h
    cases hinner : (qualified rest').head? with
    | none =>
      rw [hinner] at h
      cases h
      rw [dot?_of_parenthesis hr] at hdot
      cases hdot
    | some found =>
      rw [hinner] at h
      cases h
      have hrest' : rest' ≠ [] := by
        rintro rfl
        simp [qualified, name?] at hinner
      have hrest : rest ≠ [] := by
        rintro rfl
        cases hdot
      rw [qualified_of_dot (name?_append hname hrest u) (dot?_append hdot hrest' u),
        List.head?_append, ih hinner]
      rfl

theorem openedName?_append (h : openedName? t = some (name, r)) (u : Text) :
    openedName? (t ++ u) = some (name, r ++ u) := by
  obtain ⟨⟨written, rest⟩, hname, h⟩ := Option.bind_eq_some_iff.mp h
  dsimp only at h
  split at h
  · next body hopen =>
    cases h
    have hbody : Text.skipBlanks (rest ++ u) = '(' :: (r ++ u) := by
      rw [skipBlanks_append_of_stops (hopen ▸ List.cons_ne_nil '(' r), hopen, List.cons_append]
    simp only [openedName?, head?_qualified_append hname hopen u, Option.bind_eq_bind,
      Option.bind_some, hbody]
  · cases h

theorem createHead?_append (h : createHead? t = some (name, r)) (u : Text) :
    createHead? (t ++ u) = some (name, r ++ u) := by
  obtain ⟨before, rfl⟩ := createHead?_suffix h
  rw [createHead?_eq] at h ⊢
  rw [List.append_assoc, List.cons_append]
  rcases stopsAtParenthesis_afterKeywords? before with hfront | ⟨w, hfront⟩
  · rw [hfront] at h
    cases h
  · rw [hfront] at h ⊢
    have hlonger := openedName?_append h u
    rwa [List.append_assoc, List.cons_append] at hlonger

theorem Scan.body?_append {s : Scan} (h : s.body? t = some (body, r)) (u : Text) :
    s.body? (t ++ u) = some (body, r ++ u) := by
  fun_induction Scan.body? s t generalizing body with
  | case1 => cases h
  | case2 s c t hd =>
    cases h
    rw [List.cons_append, Scan.body?, if_pos hd]
  | case3 s c t hd ih =>
    obtain ⟨inner, hinner, heq⟩ := Option.map_eq_some_iff.mp h
    cases heq
    rw [List.cons_append, Scan.body?, if_neg hd, ih hinner]
    rfl

/-- Whatever follows a statement that creates a table, the same table is created. -/
theorem createTable_append {table : Table} (h : createTable t = .ok (some table)) (tail : Text) :
    createTable (t ++ tail) = .ok (some table) := by
  unfold createTable at h ⊢
  cases hhead : createHead? t with
  | none =>
    rw [hhead] at h
    cases h
  | some head =>
    obtain ⟨name, rest⟩ := head
    simp only [hhead] at h
    rw [createHead?_append hhead]
    dsimp only
    cases hbody : Scan.body? { depth := 1 } rest with
    | none =>
      rw [hbody] at h
      cases h
    | some found =>
      rw [hbody] at h
      rw [Scan.body?_append hbody]
      exact h

theorem createTable_append_options :
    let statement := "CREATE TABLE IF NOT EXISTS shop.`wine (list)` (id INT, note TEXT DEFAULT ')')"
    let table : Table := ⟨"wine (list)".toList, [
      { name := "id".toList, type := "INT".toList },
      { name := "note".toList, type := "TEXT".toList, defaultValue := some ")".toList }]⟩
    createTable statement.toList = .ok (some table) ∧
      createTable (statement.toList ++ ", ) ENGINE=`(' COMMENT='x".toList) = .ok (some table) := by
  intro statement table
  have hread : createTable statement.toList = .ok (some table) := by decide +kernel
  exact ⟨hread, createTable_append hread _⟩

end Sql
end SchemaDiagram
