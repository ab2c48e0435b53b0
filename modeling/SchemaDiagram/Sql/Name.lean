import SchemaDiagram.Text.Keyword

/-! Names: bare words, or quoted by backticks, double quotes or brackets. -/
namespace SchemaDiagram.Sql

/-- The character that closes a quoted name. -/
def closer? (c : Char) : Option Char :=
  if c = '\x60' then some '\x60'
  else if c = '"' then some '"'
  else if c = '[' then some ']'
  else none

/-- One or more characters up to a closing one, which is taken along. -/
def enclosed? (close : Char) (t : Text) : Option (Text × Text) :=
  match t.takeWhile (· != close), t.dropWhile (· != close) with
  | c :: content, _ :: rest => some (c :: content ++ [close], rest)
  | _, _ => none

/-- A name as it is written, and what follows it. -/
def name? : Text → Option (Text × Text)
  | [] => none
  | c :: t =>
    match closer? c with
    | some close => (enclosed? close t).map fun found => (c :: found.1, found.2)
    | none => Text.word? (c :: t)

/-- The name without blanks around it and without its quotes. -/
def unquote (name : Text) : Text :=
  let name := Text.trim name
  match name with
  | c :: d :: t => if closer? c = some ((d :: t).getLast (by simp)) then (d :: t).dropLast else name
  | _ => name

theorem enclosed?_shorter {close : Char} {t : Text} {found : Text × Text}
    (h : enclosed? close t = some found) : found.2.length < t.length := by
  unfold enclosed? at h
  split at h
  · next c content d rest _ hd =>
    have := (List.dropWhile_suffix (· != close) (l := t)).length_le
    rw [hd, List.length_cons] at this
    simp only [Option.some.injEq] at h
    subst h
    exact this
  · simp at h

theorem word?_shorter {t : Text} {found : Text × Text} (h : Text.word? t = some found) :
    found.2.length < t.length := by
  cases t with
  | nil => simp [Text.word?, Text.word] at h
  | cons c t =>
    by_cases hc : Text.isWord c
    · simp only [Text.word?, Text.word, hc, List.takeWhile_cons, List.dropWhile_cons, if_true,
        Option.some.injEq] at h
      subst h
      exact Nat.lt_succ_of_le (List.dropWhile_suffix _).length_le
    · simp [Text.word?, Text.word, hc] at h

theorem name?_shorter {t : Text} {found : Text × Text} (h : name? t = some found) :
    found.2.length < t.length := by
  cases t with
  | nil => simp [name?] at h
  | cons c t =>
    simp only [name?] at h
    split at h
    · obtain ⟨inner, hi, rfl⟩ := Option.map_eq_some_iff.1 h
      have := enclosed?_shorter hi
      simp only [List.length_cons]
      omega
    · exact word?_shorter h

theorem skipBlanks_le (t : Text) : (Text.skipBlanks t).length ≤ t.length :=
  (List.dropWhile_suffix _).length_le

/-- What follows a dot with blanks around it. -/
def dot? (t : Text) : Option Text :=
  match Text.skipBlanks t with
  | '.' :: t => some (Text.skipBlanks t)
  | _ => none

theorem dot?_shorter {t r : Text} (h : dot? t = some r) : r.length < t.length := by
  unfold dot? at h
  split at h
  · next rest he =>
    simp only [Option.some.injEq] at h
    subst h
    have h₁ := skipBlanks_le t
    have h₂ := skipBlanks_le rest
    rw [he] at h₁
    simp only [List.length_cons] at h₁
    omega
  · simp at h

/--
The readings of a name with qualifiers before it: the last name of each chain of names with
dots between them, and what follows the chain. Longer chains come first.
-/
def qualified (t : Text) : List (Text × Text) :=
  match h : name? t with
  | none => []
  | some (name, rest) =>
    match hd : dot? rest with
    | none => [(name, rest)]
    | some rest' =>
      have : rest'.length < t.length := Nat.lt_trans (dot?_shorter hd) (name?_shorter h)
      qualified rest' ++ [(name, rest)]
termination_by t.length

end SchemaDiagram.Sql
