import SchemaDiagram.Text.Case
import SchemaDiagram.Sql.Name

/-!
Declared types. A type is read word by word off the front of a column definition and keeps
its spelling, up to the first word that starts a constraint.
-/
namespace SchemaDiagram.Sql

/-- The type of a column that declares none. -/
def unknownType : Text := "UNKNOWN".toList

/-- The capitals of the words that end a type. -/
def typeStops : List String := [
  "CONSTRAINT", "PRIMARY", "KEY", "NOT", "NULL", "UNIQUE", "DEFAULT", "REFERENCES", "CHECK",
  "AUTO_INCREMENT", "AUTOINCREMENT", "IDENTITY", "GENERATED", "AS", "COLLATE", "CHARSET",
  "COMMENT", "ON"]

def isTypeStop (word : Text) : Bool := typeStops.any (·.toList == Text.upper word)

/-- Whether a text starts within a word. -/
def startsWord : Text → Bool
  | [] => false
  | c :: _ => Text.isWord c

/-- Words with dots between them, and what follows. -/
def dottedWord : Text → Text × Text
  | [] => ([], [])
  | c :: t =>
    if Text.isWord c || (c == '.' && startsWord t) then
      let found := dottedWord t
      (c :: found.1, found.2)
    else ([], c :: t)

/-- Arguments in parentheses, blanks before and within them dropped. -/
def typeArguments (t : Text) : Text × Text :=
  match Text.skipBlanks t with
  | '(' :: inner =>
    match inner.dropWhile (· != ')') with
    | _ :: rest => ('(' :: Text.squeeze (inner.takeWhile (· != ')')) ++ [')'], rest)
    | [] => ([], t)
  | _ => ([], t)

/-- One pair of brackets with or without a length in it. -/
def arraySuffix? (t : Text) : Option (Text × Text) :=
  match Text.skipBlanks t with
  | '[' :: t =>
    let t := Text.skipBlanks t
    match Text.skipBlanks (t.dropWhile Text.isDigit) with
    | ']' :: rest => some ('[' :: t.takeWhile Text.isDigit ++ [']'], rest)
    | _ => none
  | _ => none

theorem arraySuffix?_shorter {t : Text} {found : Text × Text} (h : arraySuffix? t = some found) :
    found.2.length < t.length := by
  unfold arraySuffix? at h
  split at h
  · next rest he =>
    dsimp only at h
    split at h
    · next rest' he' =>
      simp only [Option.some.injEq] at h
      subst h
      have h₁ := skipBlanks_le t
      have h₂ := skipBlanks_le rest
      have h₃ := skipBlanks_le ((Text.skipBlanks rest).dropWhile Text.isDigit)
      have h₄ := (List.dropWhile_suffix Text.isDigit (l := Text.skipBlanks rest)).length_le
      rw [he] at h₁
      rw [he'] at h₃
      simp only [List.length_cons] at h₁ h₃
      simp only
      omega
    · simp at h
  · simp at h

/-- All pairs of brackets at the front, without blanks. -/
def arraySuffixes (t : Text) : Text × Text :=
  match h : arraySuffix? t with
  | none => ([], t)
  | some (suffix, rest) =>
    have : rest.length < t.length := arraySuffix?_shorter h
    let found := arraySuffixes rest
    (suffix ++ found.1, found.2)
termination_by t.length

/-- A word of a type: its name, the spelling with arguments and brackets, and what follows. -/
def typeWord? (t : Text) : Option (Text × Text × Text) :=
  let t := Text.skipBlanks t
  if startsWord t then
    let (word, rest) := dottedWord t
    let (arguments, rest) := typeArguments rest
    let (arrays, rest) := arraySuffixes rest
    some (word, word ++ arguments ++ arrays, rest)
  else none

theorem dottedWord_le (t : Text) : (dottedWord t).2.length ≤ t.length := by
  induction t with
  | nil => simp [dottedWord]
  | cons c t ih =>
    simp only [dottedWord]
    split
    · exact Nat.le_succ_of_le ih
    · exact Nat.le_refl _

theorem dottedWord_shorter {t : Text} (h : startsWord t) :
    (dottedWord t).2.length < t.length := by
  cases t with
  | nil => simp [startsWord] at h
  | cons c t =>
    simp only [startsWord] at h
    simp only [dottedWord, h, Bool.true_or, if_true]
    exact Nat.lt_succ_of_le (dottedWord_le t)

theorem typeArguments_le (t : Text) : (typeArguments t).2.length ≤ t.length := by
  unfold typeArguments
  split
  · next inner he =>
    split
    · next c rest hr =>
      have h₁ := skipBlanks_le t
      have h₂ := (List.dropWhile_suffix (· != ')') (l := inner)).length_le
      rw [he] at h₁
      rw [hr] at h₂
      simp only [List.length_cons] at h₁ h₂
      simp only
      omega
    · exact Nat.le_refl _
  · exact Nat.le_refl _

theorem arraySuffixes_le (t : Text) : (arraySuffixes t).2.length ≤ t.length := by
  fun_induction arraySuffixes t with
  | case1 => exact Nat.le_refl _
  | case2 t suffix rest h hlt found ih => exact Nat.le_trans ih (Nat.le_of_lt hlt)

theorem typeWord?_shorter {t word spelling rest : Text}
    (h : typeWord? t = some (word, spelling, rest)) : rest.length < t.length := by
  simp only [typeWord?] at h
  split at h
  · next hs =>
    simp only [Option.some.injEq, Prod.mk.injEq] at h
    obtain ⟨-, -, rfl⟩ := h
    have h₁ := skipBlanks_le t
    have h₂ := dottedWord_shorter hs
    have h₃ := typeArguments_le (dottedWord (Text.skipBlanks t)).2
    have h₄ := arraySuffixes_le (typeArguments (dottedWord (Text.skipBlanks t)).2).2
    omega
  · simp at h

/-- The two words that declare the letters of a text column and not its type. -/
def atCharacterSet (t : Text) : Bool :=
  ((Text.keywordGap? "CHARACTER" (Text.skipBlanks t)).bind (Text.wholeKeyword? "SET")).isSome

/-- The spellings of the words of a type. -/
def typeWords (t : Text) : List Text :=
  match h : typeWord? t with
  | none => []
  | some (word, spelling, rest) =>
    have : rest.length < t.length := typeWord?_shorter h
    if isTypeStop word || atCharacterSet t then [] else spelling :: typeWords rest
termination_by t.length

/-- The declared type at the front of a definition; empty where none is declared. -/
def columnType (definition : Text) : Text := Text.join [' '] (typeWords definition)

end SchemaDiagram.Sql
