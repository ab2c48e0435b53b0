import Mathlib.Data.List.Forall2
import SchemaDiagram.Sql.Script

/-!
Scripts without their comments. Lexemes are alike when they are the same or comments of one kind
that end in the same line ends; cleaning does the same to lexemes that are alike, and what the
comments say goes with them.
-/
namespace SchemaDiagram.Sql

/-- A text that ends, but for blanks, in a character that ends no line. -/
def Stops (w : Text) : Prop :=
  ∃ u c n, w = u ++ c :: List.replicate n ' ' ∧ c ≠ ' ' ∧ c ≠ '\n' ∧ c ≠ '\r'

theorem Stops.append {w : Text} (h : Stops w) (u : Text) : Stops (u ++ w) := by
  obtain ⟨v, c, n, rfl, hc⟩ := h
  exact ⟨u ++ v, c, n, by simp, hc⟩

/-- The same lexeme, or two comments of one kind that end in the same way. -/
inductive Lexeme.Alike : Lexeme → Lexeme → Prop where
  | same (l : Lexeme) : Alike l l
  | comment {kind : LexemeKind} {w w' : Text} (hkind : kind.isComment = true) (hw : Stops w)
    (hw' : Stops w') (ends : Text) : Alike ⟨kind, w ++ ends⟩ ⟨kind, w' ++ ends⟩

variable {l l' : Lexeme} {ls ls' rs rs' : List Lexeme} {before before' : Option Lexeme}
  {s s' : Statement} {ss ss' : List Statement} {script script' : Text}

namespace Lexeme

/-- A test that hears nothing of what comments say. -/
theorem Alike.congr {α : Type} (h : l.Alike l') (test : Lexeme → α)
    (htest : ∀ w w', test ⟨.lineComment, w⟩ = test ⟨.lineComment, w'⟩ ∧
      test ⟨.blockComment, w⟩ = test ⟨.blockComment, w'⟩) : test l = test l' := by
  cases h with
  | same => rfl
  | @comment kind _ _ hkind _ _ _ =>
    cases kind with
    | lineComment => exact (htest _ _).1
    | blockComment => exact (htest _ _).2
    | _ => cases hkind

theorem Alike.kind (h : l.Alike l') : l.kind = l'.kind := h.congr (·.kind) fun _ _ => ⟨rfl, rfl⟩

theorem Alike.isSign (h : l.Alike l') (c : Char) : l.isSign c = l'.isSign c :=
  h.congr (·.isSign c) fun _ _ => ⟨rfl, rfl⟩

theorem Alike.isRemark (h : l.Alike l') : l.isRemark = l'.isRemark :=
  h.congr (·.isRemark) fun _ _ => ⟨rfl, rfl⟩

end Lexeme

/-- The same lexeme, or two remarks whose lexemes are alike. -/
inductive Segment.Alike : Segment → Segment → Prop where
  | plain (l : Lexeme) : Alike (.plain l) (.plain l)
  | remark {l l' : Lexeme} {ls ls' : List Lexeme} (h : l.Alike l')
    (hs : List.Forall₂ Lexeme.Alike ls ls') : Alike (.remark l ls) (.remark l' ls')

theorem Lexeme.Alike.step (h : l.Alike l') (n : Nesting) : n.step l = n.step l' :=
  h.congr n.step fun _ _ => ⟨rfl, rfl⟩

end SchemaDiagram.Sql
