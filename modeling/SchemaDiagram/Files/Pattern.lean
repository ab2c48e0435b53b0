import SchemaDiagram.Files.Path

/-!
Patterns for the names of files: a star stands for any characters, a question mark for one, and
brackets for one out of a set or, after an exclamation mark, for one that is not in it.
-/
namespace SchemaDiagram

/-- Why no search is made with a pattern. -/
inductive PatternFault where
  | fromRoot
  /-- Two stars stand in a longer name. -/
  | starsInside
deriving DecidableEq

def PatternFault.message : PatternFault → Text
  | fromRoot => "Non-relative patterns are unsupported".toList
  | starsInside => "Invalid pattern: '**' can only be an entire path component".toList

/-- One step of a pattern. -/
inductive PatternStep where
  | exactly (c : Char)
  | anyOne
  | many
  /-- One character inside or outside some ranges. -/
  | oneOf (inside : Bool) (ranges : List (Char × Char))
deriving DecidableEq

/-- Whether a step takes a character. -/
def PatternStep.accepts (c : Char) : PatternStep → Bool
  | exactly d => c == d
  | anyOne | many => true
  | oneOf inside ranges => ranges.any (fun (low, high) => low ≤ c && c ≤ high) == inside

abbrev Pattern := List PatternStep

namespace Pattern

/-- The ranges of a set; a range that ends before it starts holds nothing. -/
def ranges : Text → List (Char × Char)
  | [] => []
  | c :: '-' :: d :: t => if c.toNat ≤ d.toNat then (c, d) :: ranges t else ranges t
  | c :: t => (c, c) :: ranges t

/-- The content of brackets, in which a closing one may stand first, and what follows. -/
def set? (t : Text) : Option (Text × Text) :=
  let (front, rest) := match t with
    | ']' :: rest => ([']'], rest)
    | _ => ([], t)
  match rest.dropWhile (· != ']') with
  | [] => none
  | _ :: after => some (front ++ rest.takeWhile (· != ']'), after)

/-- The steps of a pattern, the first `skip` characters being read already. -/
def steps : Nat → Text → Pattern
  | _, [] => []
  | skip + 1, _ :: t => steps skip t
  | 0, '*' :: t => .many :: steps 0 t
  | 0, '?' :: t => .anyOne :: steps 0 t
  | 0, '[' :: t =>
    let (inside, body) := match t with
      | '!' :: body => (false, body)
      | _ => (true, t)
    match set? body with
    | some (set, after) => .oneOf inside (ranges set) :: steps (t.length - after.length) t
    | none => .exactly '[' :: steps 0 t
  | 0, c :: t => .exactly c :: steps 0 t

def ofText (t : Text) : Pattern := steps 0 t

/-- Why a pattern of several names is refused, if it is. -/
def refusal? (t : Text) : Option PatternFault :=
  if t.head? == some '/' then some .fromRoot
  else if (Path.partsOf t).any fun name => name != ['*', '*'] && Text.occursIn ['*', '*'] name then
    some .starsInside
  else none

/-- The rests of a text after what a pattern may take of it. -/
def suffixes : Text → List Text
  | [] => [[]]
  | c :: t => (c :: t) :: suffixes t

/-- Whether a pattern takes a whole text. -/
def accepts : Pattern → Text → Bool
  | [], t => t.isEmpty
  | .many :: p, t => (suffixes t).any (accepts p)
  | _ :: _, [] => false
  | step :: p, c :: t => step.accepts c && accepts p t

end Pattern
end SchemaDiagram
