import Mathlib.Data.List.Chain
import SchemaDiagram.Proofs.Schema.Consistency
import SchemaDiagram.Proofs.Text.Cutting

/-!
Tables written as statements. Names stand in backticks, types and defaults as they are, and the
constraints of a column in one fixed order after its type.
-/
namespace SchemaDiagram

namespace Sql

/-- A name that is written in backticks; it may be any plain word but one. -/
structure IsName (name : Text) : Prop where
  nonempty : name ≠ []
  plain : Text.Plain name
  notUnique : Text.upper name ≠ "UNIQUE".toList

instance (name : Text) : Decidable (IsName name) :=
  decidable_of_iff (name ≠ [] ∧ Text.Plain name ∧ Text.upper name ≠ "UNIQUE".toList)
    ⟨fun ⟨h, hp, hu⟩ => ⟨h, hp, hu⟩, fun ⟨h, hp, hu⟩ => ⟨h, hp, hu⟩⟩

/-- A name in backticks. -/
def tick (name : Text) : Text := '\x60' :: name ++ ['\x60']

/-- A name in backticks after its qualifiers. -/
def chain (scope : List Text) (name : Text) : Text :=
  scope.flatMap (fun qualifier => tick qualifier ++ ['.']) ++ tick name

/-- Words with a blank before each. -/
def spaced (words : List Text) : Text := words.flatMap (' ' :: ·)

/-- A word that is written stands before a blank or a parenthesis, or at the end. -/
def Ends (r : Text) : Prop := ∀ c ∈ r.head?, c = ' ' ∨ c = '('

variable {r : Text}

theorem Ends.atWordEnd (h : Ends r) : Text.atWordEnd r = true := by
  cases r with
  | nil => rfl
  | cons c r => rcases h c rfl with rfl | rfl <;> rfl

theorem ends_spaced (words : List Text) (hr : Ends r) : Ends (spaced words ++ r) := by
  cases words with
  | nil => exact hr
  | cons => simp [spaced, Ends]

theorem blank_join {words : List Text} (h : words ≠ []) :
    ' ' :: Text.join [' '] words = spaced words := by
  induction words with
  | nil => exact (h rfl).elim
  | cons w words ih =>
    cases words with
    | nil => simp [Text.join, spaced]
    | cons v words => simpa [Text.join, spaced] using ih (by simp)

/-- A number of digits, with or without a point. -/
def IsDecimal (n : Text) : Prop := ∀ c ∈ n, c.isDigit = true ∨ c = '.'

instance (n : Text) : Decidable (IsDecimal n) := List.decidableBAll _ n

/-- A word of a type with the numbers that follow it in parentheses. -/
structure TypeWord where
  word : Text
  numbers : Option (List Text) := none

namespace TypeWord

def arguments (w : TypeWord) : Text :=
  match w.numbers with
  | none => []
  | some numbers => '(' :: Text.join [','] numbers ++ [')']

def spelling (w : TypeWord) : Text := w.word ++ w.arguments

/-- A word that neither ends the type nor ends like the keyword for defaults. -/
structure Valid (w : TypeWord) : Prop where
  nonempty : w.word ≠ []
  plain : Text.Plain w.word
  notStop : isTypeStop w.word = false
  notDefault : ¬ "DEFAULT".toList <:+ Text.upper w.word
  numbers : ∀ n ∈ w.numbers.getD [], IsDecimal n

instance (w : TypeWord) : Decidable w.Valid :=
  decidable_of_iff (w.word ≠ [] ∧ Text.Plain w.word ∧ isTypeStop w.word = false ∧
      ¬ "DEFAULT".toList <:+ Text.upper w.word ∧
      ∀ n ∈ w.numbers.getD [], IsDecimal n)
    ⟨fun ⟨h, hp, hs, hd, hn⟩ => ⟨h, hp, hs, hd, hn⟩,
      fun ⟨h, hp, hs, hd, hn⟩ => ⟨h, hp, hs, hd, hn⟩⟩

theorem ends_arguments (w : TypeWord) (hr : Ends r) : Ends (w.arguments ++ r) := by
  unfold arguments
  split
  · exact hr
  · simp [Ends]

theorem Valid.mem_numbers {w : TypeWord} {numbers : List Text} (h : w.Valid)
    (hn : w.numbers = some numbers) :
    ∀ c ∈ Text.join [','] numbers, c.isDigit = true ∨ c = '.' ∨ c = ',' := by
  apply Text.forall_mem_join
  · simp
  · intro n hm c hc
    rcases h.numbers n (by simpa [hn] using hm) c hc with hd | rfl
    · exact Or.inl hd
    · simp

/-- The second word does not make a character set of the first. -/
def Continues (v w : TypeWord) : Prop :=
  ¬ (v.numbers = none ∧ Text.upper v.word = "CHARACTER".toList ∧ Text.upper w.word = "SET".toList)

instance (v w : TypeWord) : Decidable (Continues v w) := inferInstanceAs (Decidable (¬ _))

end TypeWord

/-- A type of one word or more with blanks between them. -/
def IsType (type : Text) : Prop :=
  ∃ words : List TypeWord, words ≠ [] ∧ (∀ w ∈ words, w.Valid) ∧
    words.IsChain TypeWord.Continues ∧ type = Text.join [' '] (words.map TypeWord.spelling)

theorem IsType.exists_spaced {type : Text} (h : IsType type) :
    ∃ words : List TypeWord, (∀ w ∈ words, w.Valid) ∧
      ' ' :: type = spaced (words.map TypeWord.spelling) := by
  obtain ⟨words, hne, hv, -, rfl⟩ := h
  exact ⟨words, hv, blank_join (by simpa using hne)⟩

/-- The words of a constraint where it holds. -/
def flag (holds : Bool) (words : List String) : List Text :=
  if holds then words.map String.toList else []

theorem forall_mem_flag {p : Text → Prop} {holds : Bool} {words : List String}
    (h : holds = true → ∀ k ∈ words, p k.toList) : ∀ w ∈ flag holds words, p w := by
  intro w hw
  cases holds with
  | false => simp [flag] at hw
  | true =>
    obtain ⟨k, hk, rfl⟩ := List.mem_map.mp hw
    exact h rfl k hk

/-- A default that is a plain word and ends no type. -/
structure IsDefault (value : Text) : Prop where
  nonempty : value ≠ []
  plain : Text.Plain value
  notStop : isTypeStop value = false

end Sql

open Sql

/-- The constraint that points at a column, with the qualifiers of its table. -/
def Reference.print (scope : List Text) (r : Reference) : Text :=
  ' ' :: "REFERENCES".toList ++ ' ' :: chain scope r.table ++ ' ' :: '(' :: tick r.column ++ [')']

theorem Reference.print_eq (r : Reference) (scope : List Text) :
    r.print scope = ' ' :: ("REFERENCES".toList ++
      ' ' :: (chain scope r.table ++ ' ' :: '(' :: (tick r.column ++ [')']))) := by
  simp only [print, List.append_assoc, List.cons_append]

namespace Column

/-- The keyword for defaults and the default. -/
def defaultWords (c : Column) : List Text :=
  match c.defaultValue with
  | some value => ["DEFAULT".toList, value]
  | none => []

/-- The words of the constraints that point at no other column. -/
def constraints (c : Column) : List Text :=
  flag (!c.nullable) ["NOT", "NULL"] ++ (flag c.isUnique ["UNIQUE"]
    ++ (flag c.isPrimary ["PRIMARY", "KEY"] ++ c.defaultWords))

/-- The constraint that points at another column. -/
def pointer (scope : List Text) (c : Column) : Text :=
  match c.reference with
  | some r => r.print scope
  | none => []

/-- All constraints of a column. -/
def clauses (scope : List Text) (c : Column) : Text := spaced c.constraints ++ c.pointer scope

/-- The definition of a column. -/
def print (scope : List Text) (c : Column) : Text :=
  tick c.name ++ ' ' :: c.type ++ c.clauses scope

theorem forall_mem_defaultWords {p : Text → Prop} {c : Column}
    (h : ∀ v, c.defaultValue = some v → p "DEFAULT".toList ∧ p v) : ∀ w ∈ c.defaultWords, p w := by
  unfold defaultWords
  split
  · next v hv => simpa using h v hv
  · simp

/-- A column with names, a type and a default that can be written as they are. -/
structure Printable (c : Column) : Prop where
  name : IsName c.name
  type : IsType c.type
  default : ∀ value, c.defaultValue = some value → IsDefault value
  reference : ∀ r, c.reference = some r → IsName r.table ∧ IsName r.column

namespace Printable

variable {c : Column}

/-- The words of the constraints are plain, the default among them. -/
theorem mem_constraints (hc : c.Printable) :
    ∀ w ∈ c.constraints, w ≠ [] ∧ Text.Plain w := by
  simp only [constraints, List.forall_mem_append]
  refine ⟨forall_mem_flag fun _ => ?_, forall_mem_flag fun _ => ?_, forall_mem_flag fun _ => ?_,
    forall_mem_defaultWords fun v hv => ⟨?_, (hc.default v hv).nonempty, (hc.default v hv).plain⟩⟩
  all_goals decide

theorem plain_constraints (hc : c.Printable) : ∀ w ∈ c.constraints, Text.Plain w :=
  fun w hw => (hc.mem_constraints w hw).2

end Printable

end Column

namespace Table

/-- The statement that creates a table, with qualifiers before its name and before the tables
that its columns point at. -/
def print (scope : List Text) (scopes : Column → List Text) (t : Table) : Text :=
  "CREATE".toList ++ ' ' :: "TABLE".toList ++ ' ' :: chain scope t.name ++ ' ' ::
    '(' :: Text.join [',', ' '] (t.columns.map fun c => c.print (scopes c)) ++ [')']

/-- A consistent table of printable columns. -/
structure Printable (t : Table) : Prop where
  name : IsName t.name
  columns : ∀ c ∈ t.columns, c.Printable
  consistent : t.Consistent

end Table
end SchemaDiagram
