/-! Texts as lists of characters: cutting, joining and searching them. -/
namespace SchemaDiagram

/-- A text is the list of its characters. -/
abbrev Text := List Char

namespace Text

/-- Puts a character in front of the first piece. -/
def consFirst (c : Char) : List Text → List Text
  | [] => [[c]]
  | piece :: pieces => (c :: piece) :: pieces

/-- The pieces between the occurrences of a character; always at least one. -/
def splitAt (sep : Char) : Text → List Text
  | [] => [[]]
  | c :: t => if c = sep then [] :: splitAt sep t else consFirst c (splitAt sep t)

/-- The pieces with a separator between each two of them. -/
def join (sep : Text) : List Text → Text
  | [] => []
  | [piece] => piece
  | piece :: pieces => piece ++ sep ++ join sep pieces

/-- What follows a given start. -/
def after? (start t : Text) : Option Text :=
  start.isPrefixOf? t

/-- Whether a text occurs in another one. -/
def occursIn (part : Text) : Text → Bool
  | [] => part.isEmpty
  | c :: t => part.isPrefixOf (c :: t) || occursIn part t

/-- The first answer of a recogniser that is tried at every position, the end included. -/
def search (recognise : Text → Option α) : Text → Option α
  | [] => recognise []
  | c :: t => (recognise (c :: t)).or (search recognise t)

/-- The answers of a recogniser from left to right, each search going on after the last answer. -/
def searchAll (recognise : Text → Option (α × Text)) : Nat → Text → List α
  | _, [] => []
  | skip + 1, _ :: t => searchAll recognise skip t
  | 0, c :: t =>
    match recognise (c :: t) with
    | some (found, rest) => found :: searchAll recognise (t.length - rest.length) t
    | none => searchAll recognise 0 t

/-- Decimal digits of a number. -/
def ofNat (n : Nat) : Text := Nat.toDigits 10 n

end Text
end SchemaDiagram
