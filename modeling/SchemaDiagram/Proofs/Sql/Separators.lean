import SchemaDiagram.Proofs.Sql.Scanning

/-!
Lists cut at their commas. A comma outside quotes and parentheses ends a part, and what stands
between two such commas stays whole, so parts that are joined come apart again.
-/
namespace SchemaDiagram.Sql

variable {t p r : Text} {n : Nat} {c : Char}

/-- A comma outside quotes at depth zero. -/
def isSeparator (t : Text) (i : Nat) : Bool := isBare t 0 ',' i && balance t 0 i == 0

def separators (t : Text) : List Nat := (List.range t.length).filter (isSeparator t)

/-- What a text holds from a place on, cut at later places whose characters go. -/
def cut (t : Text) (first : Nat) : List Nat → List Text
  | [] => [t.drop first]
  | i :: cuts => (t.drop first).take (i - first) :: cut t (i + 1) cuts

theorem consFirst_cut {cuts : List Nat} (hc : t[n]? = some c) (hcuts : ∀ i ∈ cuts, n < i) :
    Text.consFirst c (cut t (n + 1) cuts) = cut t n cuts := by
  obtain ⟨hlt, rfl⟩ := List.getElem?_eq_some_iff.mp hc
  cases cuts with
  | nil => rw [cut, cut, Text.consFirst, List.drop_eq_getElem_cons hlt]
  | cons i cuts =>
    have hi : i - n = (i - (n + 1)) + 1 := by
      have := hcuts i List.mem_cons_self
      omega
    rw [cut, cut, Text.consFirst, hi, List.drop_eq_getElem_cons hlt, List.take_succ_cons]

/-- From each place on, a scan that stands there cuts at the separators that follow. -/
theorem Scan.pieces_placed (t : Text) (n : Nat) : (placed t 0 n).pieces (t.drop n) =
    cut t n ((List.range' n (t.length - n)).filter (isSeparator t)) := by
  by_cases hn : n < t.length
  · have hc : t[n]? = some t[n] := List.getElem?_eq_getElem hn
    have hc₀ : t[0 + n]? = some t[n] := by rwa [Nat.zero_add]
    have hrest := pieces_placed t (n + 1)
    have hlength : t.length - n = (t.length - (n + 1)) + 1 := by omega
    have hseparator : isSeparator t n = (decide (t[n] = ',') && (placed t 0 n).atTop) := by
      rw [Bool.eq_iff_iff]
      simp [isSeparator, isBare, hc, placed, atTop, and_assoc]
    rw [List.drop_eq_getElem_cons hn, pieces, next_placed hc₀, hrest, hlength, List.range'_succ,
      ← hseparator, List.filter_cons]
    split
    · rw [cut, Nat.sub_self, List.take_zero]
    · refine consFirst_cut hc fun i hi => ?_
      obtain ⟨hle, -⟩ := List.mem_range'_1.mp (List.mem_of_mem_filter hi)
      exact hle
  · have hdrop : t.drop n = [] := List.drop_eq_nil_of_le (by omega)
    have hlength : t.length - n = 0 := by omega
    rw [hdrop, hlength, List.range'_zero, List.filter_nil, cut, hdrop, pieces]
termination_by t.length - n

theorem pieces_eq_cut (t : Text) : Scan.pieces {} t = cut t 0 (separators t) := by
  have hplaced : Scan.placed t 0 0 = {} := rfl
  rw [← hplaced, separators, List.range_eq_range']
  exact Scan.pieces_placed t 0

/-- Nothing is lost between the pieces but the commas. -/
theorem Scan.join_pieces (s : Scan) (t : Text) : Text.join [','] (s.pieces t) = t := by
  fun_induction Scan.pieces s t with
  | case1 => rfl
  | case2 s c t hcut ih =>
    obtain rfl : c = ',' := by simp_all
    have hjoin : Text.join [','] ([] :: (s.next ',').pieces t) ++ [] =
        [] ++ ',' :: (Text.join [','] ((s.next ',').pieces t) ++ []) :=
      Text.join_cons_append (pieces_ne_nil (s.next ',') t)
    rwa [List.append_nil, List.append_nil, List.nil_append, ih] at hjoin
  | case3 s c t hcut ih => rw [Text.join_consFirst, ih]

/-- The trimmed pieces of a text; a last one that is blank is left out. -/
def trimmedPieces (ps : List Text) : List Text :=
  if (ps.map Text.trim).getLast? = some [] then (ps.map Text.trim).dropLast else ps.map Text.trim

theorem partsOf_eq_trimmedPieces (ps : List Text) : partsOf ps = trimmedPieces ps := by
  fun_induction partsOf ps with
  | case1 => rfl
  | case2 p hb => simp [trimmedPieces, Text.trim_eq_nil_iff.mpr hb]
  | case3 p hb => simp [trimmedPieces, Text.trim_eq_nil_iff, hb]
  | case4 p ps hne ih =>
    obtain ⟨q, ps, rfl⟩ := List.exists_cons_of_ne_nil fun h => hne h
    rw [ih]
    simp only [trimmedPieces, List.map_cons, List.getLast?_cons_cons]
    split <;> rfl

/-- A trimmed text without separators after which a scan stands at the top again. -/
structure IsPart (p : Text) : Prop where
  nonempty : p ≠ []
  trimmed : Text.trim p = p
  bare : openQuote p 0 p.length = none
  settled : balance p 0 p.length = 0
  whole : separators p = []

theorem IsPart.staysWhole (h : IsPart p) : Scan.StaysWhole p := by
  have hafter : (Scan.placed p 0 0).after ((p.drop 0).take p.length) = Scan.placed p 0 p.length :=
    Scan.after_take (by omega)
  rw [List.drop_zero, List.take_length] at hafter
  constructor
  · rw [pieces_eq_cut, h.whole]
    rfl
  · refine ⟨isEscaped p (0 + p.length), ?_⟩
    rw [show ({} : Scan) = Scan.placed p 0 0 from rfl, hafter, Scan.placed, h.bare, h.settled]

/-- A text is cut at its separators and nowhere else, and joined parts are found again. -/
theorem parts_at_separators :
    (∀ t, parts t = trimmedPieces (cut t 0 (separators t)) ∧
      Text.join [','] (cut t 0 (separators t)) = t) ∧
    ∀ ps, (∀ p ∈ ps, IsPart p) → parts (Text.join [',', ' '] ps) = ps := by
  refine ⟨fun t => ⟨?_, ?_⟩, fun ps h => ?_⟩
  · rw [parts, partsOf_eq_trimmedPieces, pieces_eq_cut]
  · rw [← pieces_eq_cut, Scan.join_pieces]
  · exact parts_join_of_staysWhole fun p hp =>
      ⟨(h p hp).staysWhole, (h p hp).nonempty, (h p hp).trimmed⟩

example : separators "id INT, size DECIMAL(8, 2), note TEXT DEFAULT 'a, b'".toList = [6, 26] := by
  decide

variable {b name : Text} {start : Nat}

/-- The scan for the body of a statement, `n` characters after the parenthesis at `start`. -/
def bodyScan (t : Text) (start n : Nat) : Scan :=
  ({ escaped := t[start]? == some '\\', depth := 1 } : Scan).after ((t.drop (start + 1)).take n)

/-- The scan that cuts a list, after `n` of its characters. -/
def listScan (b : Text) (n : Nat) : Scan := ({} : Scan).after (b.take n)

/-- A comma outside quotes at depth one of a statement, counted from the parenthesis at `start`. -/
def isDivider (t : Text) (start n : Nat) : Bool :=
  t[start + 1 + n]? == some ',' && (bodyScan t start n).quote == none &&
    (bodyScan t start n).depth == 1

def dividers (t : Text) (start length : Nat) : List Nat :=
  (List.range length).filter (isDivider t start)

theorem isBody_of_tableBody (h : tableBody t start name = .ok b) : IsBody t start b := by
  rw [← bodyAt?_eq_some_iff]
  rw [tableBody] at h
  split at h
  · next heq =>
    cases h
    exact heq
  · cases h

theorem IsBody.take_drop (h : IsBody t start b) (hn : n ≤ b.length) :
    (t.drop (start + 1)).take n = b.take n := by
  obtain ⟨r, hr⟩ := h.closed
  rw [hr, List.take_append_of_le_length hn]

theorem listScan_eq_placed (hn : n ≤ b.length) : listScan b n = Scan.placed b 0 n := by
  have hafter : (Scan.placed b 0 0).after ((b.drop 0).take n) = Scan.placed b 0 n :=
    Scan.after_take (by omega)
  rwa [List.drop_zero] at hafter

/-- The one scan looks back at the parenthesis where the other one starts: neither sees a
backslash. -/
theorem IsBody.listScan_eq (h : IsBody t start b) (hopen : t[start]? = some '(')
    (hn : n ≤ b.length) : listScan b n = Scan.placed t (start + 1) n := by
  obtain ⟨r, hr⟩ := h.closed
  have hstart : ({} : Scan) = Scan.placed t (start + 1) 0 := by
    simp [Scan.placed, openQuote, isEscaped, balance, hopen]
  have hlength : t.length - (start + 1) = b.length + (r.length + 1) := by
    simpa using congrArg List.length hr
  rw [listScan, ← h.take_drop hn, hstart, Scan.after_take (by omega)]

/-- The scan for the body is the scan of the list one parenthesis further in. -/
theorem IsBody.bodyScan_eq (h : IsBody t start b) (hopen : t[start]? = some '(')
    (hn : n ≤ b.length) : bodyScan t start n = (listScan b n).within := by
  have hmark : (some '(' == some '\\') = false := rfl
  rw [bodyScan, h.take_drop hn, hopen, hmark]
  exact Scan.after_within {} (b.take n)

theorem IsBody.dividers_eq (h : IsBody t start b) (hopen : t[start]? = some '(') :
    dividers t start b.length = separators b := by
  refine List.filter_congr fun i hi => ?_
  have hlt := List.mem_range.mp hi
  have hplace : t[start + 1 + i]? = b[i]? := by
    obtain ⟨r, hr⟩ := h.closed
    rw [← List.getElem?_drop, hr, List.getElem?_append_left hlt]
  have hdepth : ((listScan b i).within.depth == 1) = ((listScan b i).depth == 0) := by
    rw [Scan.within_depth, Bool.eq_iff_iff, beq_iff_eq, beq_iff_eq]
    omega
  rw [isDivider, h.bodyScan_eq hopen (Nat.le_of_lt hlt), hplace, hdepth,
    listScan_eq_placed (Nat.le_of_lt hlt), isSeparator, isBare, Nat.zero_add]
  rfl

/-- Both scans of a body see the same quotes, one parenthesis apart, so the definitions of a table
are what stands between the commas at depth one of its statement. -/
theorem definitions_at_dividers (hopen : t[start]? = some '(')
    (hbody : tableBody t start name = .ok b) :
    (∀ n ≤ b.length, (listScan b n).quote = (bodyScan t start n).quote ∧
      (listScan b n).depth = (bodyScan t start n).depth - 1 ∧ 0 ≤ (listScan b n).depth) ∧
    (listScan b b.length).quote = none ∧ (listScan b b.length).depth = 0 ∧
    parts b = trimmedPieces (cut b 0 (dividers t start b.length)) ∧
    ∀ found, createHead? t = some (found, t.drop (start + 1)) → createTable t =
      .ok (some (tableOf found (trimmedPieces (cut b 0 (dividers t start b.length))))) := by
  have h := isBody_of_tableBody hbody
  have hparts : parts b = trimmedPieces (cut b 0 (dividers t start b.length)) := by
    rw [parts, partsOf_eq_trimmedPieces, pieces_eq_cut, h.dividers_eq hopen]
  have hend := h.listScan_eq hopen (Nat.le_refl _)
  refine ⟨fun n hn => ⟨?_, ?_, ?_⟩, ?_, ?_, hparts, fun found hhead => ?_⟩
  · rw [h.bodyScan_eq hopen hn]
    rfl
  · rw [h.bodyScan_eq hopen hn, Scan.within_depth]
    omega
  · rw [h.listScan_eq hopen hn]
    exact h.level n hn
  · rw [hend]
    exact h.bare
  · rw [hend]
    exact h.settled
  · have hread := bodyAt?_eq_some_iff.mpr h
    have hmark : (some '(' == some '\\') = false := rfl
    rw [bodyAt?, hopen, hmark] at hread
    obtain ⟨⟨body, rest⟩, hscan, rfl⟩ := Option.map_eq_some_iff.mp hread
    rw [createTable, hhead, ← hparts]
    simp only [hscan]

theorem definitions_at_dividers_film :
    let statement :=
      "CREATE TABLE film (`na,me` CHAR(9) DEFAULT 'it\\'s (', id INT) COMMENT=')'".toList
    let b := "`na,me` CHAR(9) DEFAULT 'it\\'s (', id INT".toList
    statement[18]? = some '(' ∧ tableBody statement 18 "film".toList = .ok b ∧
      dividers statement 18 b.length = [33] ∧
      (listScan b b.length).quote = none ∧ (listScan b b.length).depth = 0 ∧
      createTable statement = .ok (some (tableOf "film".toList
        ["`na,me` CHAR(9) DEFAULT 'it\\'s ('".toList, "id INT".toList])) := by
  intro statement b
  have hopen : statement[18]? = some '(' := by decide +kernel
  have hbody : tableBody statement 18 "film".toList = .ok b := by decide +kernel
  have hdividers : dividers statement 18 b.length = [33] := by decide +kernel
  have hhead : createHead? statement = some ("film".toList, statement.drop 19) := by
    decide +kernel
  obtain ⟨-, hquote, hdepth, -, htable⟩ := definitions_at_dividers hopen hbody
  refine ⟨hopen, hbody, hdividers, hquote, hdepth, ?_⟩
  rw [htable _ hhead, hdividers]
  rfl

end SchemaDiagram.Sql
