import SchemaDiagram.Proofs.Postgres.Remarks.Declarations
import SchemaDiagram.Proofs.Postgres.Remarks.Pieces
import SchemaDiagram.Proofs.Postgres.Remarks.Places
import SchemaDiagram.Proofs.Schema.Composition
import SchemaDiagram.Proofs.Sql.Remarks.Lexemes

/-!
Comments and the schema. Readers that pass over a comment give the same schema whatever it says, up
to types and default values in which comments stand; those of an ordinary run pass over it wherever
they read a comment there. The dialect is guessed from the whole script, so the words may change it.
-/
namespace SchemaDiagram

open Text (Mark)

variable {m : Mark} {pre words words' post script script' : Text} {readers : Readers}

/-- A script with a comment between two texts. -/
def commented (m : Mark) (pre words post : Text) : Text := pre ++ (m.say words ++ post)

namespace Readers

/-- The printed forms of the types and default values of a script in which comments stand. -/
def noted (readers : Readers) (script : Text) : List Text :=
  ((readers.parse? script).getD []).flatMap Postgres.Statement.noted

end Readers

namespace Postgres

/-- A place of a script where a comment says some words, as the PostgreSQL engine reads it too. -/
structure Says (m : Mark) (pre words post : Text) : Prop extends Sql.Says m pre words post where
  /-- The script is read piece by piece up to the comment. -/
  pieces : ∃ ps, Token.Reaches (m.say words ++ post) (commented m pre words post) ps
  /-- The comments within a comment are closed. -/
  closed : m = .block → Token.block? 0 (words ++ "*/".toList) = some (words, [])

theorem Says.pieces?_eq (h : Says m pre words post) :
    ∃ ps, Token.pieces? pre = some ps ∧ Token.pieces? (commented m pre words post) =
      (Token.pieces? post).map fun qs => ps ++ .comment (Token.said m words) :: qs := by
  obtain ⟨ps, hps⟩ := h.pieces
  refine ⟨ps, hps.pieces?_before (m.opens_say words post), ?_⟩
  have hcomment : Token.pieces? (m.say words ++ post) =
      (Token.pieces? post).map (.comment (Token.said m words) :: ·) := by
    have hfits := h.fits
    cases hfits with
    | line hwords hpost => exact Token.pieces?_line hwords hpost
    | block => exact Token.pieces?_block (h.closed rfl) post
  rw [hps.pieces?_eq, hcomment, Option.map_map]
  rfl

/-- Scripts that say different words in a comment have statements that are alike, or both break the
grammar. -/
theorem Says.statements_alike (h : Says m pre words post) (h' : Says m pre words' post) :
    Option.Rel (List.Forall₂ (Statement.Alike fun _ => []))
      (statements? (commented m pre words post)) (statements? (commented m pre words' post)) := by
  obtain ⟨ps, hps, hpieces⟩ := h.pieces?_eq
  obtain ⟨ps', hps', hpieces'⟩ := h'.pieces?_eq
  obtain rfl : ps = ps' := Option.some.inj (hps.symm.trans hps')
  unfold statements? Token.all?
  rw [hpieces, hpieces']
  cases hqs : Token.pieces? post with
  | none => exact .none
  | some qs =>
    refine Token.ofPieces_alike (List.rel_append (Token.alike_pieces? hps) ?_)
    exact .cons (.comment rfl) (Token.alike_pieces? hqs)

end Postgres

namespace Schema

end Schema
end SchemaDiagram
