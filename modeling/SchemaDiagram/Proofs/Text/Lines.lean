import SchemaDiagram.Proofs.Text.Cutting
import SchemaDiagram.Text.Line

/-!
Lines around a line feed. A feed ends the line before it, even where it is the second half of a line
end; so what stands before it and what stands behind it fall into lines on their own.
-/
namespace SchemaDiagram.Text

variable {c : Char} {t : Text} {pieces : List Text}

theorem consFirst_append (h : pieces ≠ []) (c : Char) (more : List Text) :
    consFirst c (pieces ++ more) = consFirst c pieces ++ more := by
  obtain ⟨piece, pieces, rfl⟩ := List.exists_cons_of_ne_nil h
  rfl

theorem lines_ne_nil (h : t ≠ []) : lines t ≠ [] := by
  fun_cases lines t with
  | case1 => exact absurd rfl h
  | case2 => simp
  | case3 => simp
  | case4 c t => exact consFirst_ne_nil c (lines t)

theorem lines_cons (hreturn : c = '\r' → t.head? ≠ some '\n') :
    lines (c :: t) = if isLineEnd c then [] :: lines t else consFirst c (lines t) := by
  rw [lines]
  rintro t' rfl rfl
  exact hreturn rfl rfl

/-- A character is read alone before a feed unless it is a return that the feed completes. -/
theorem lines_cons_feed (hreturn : ∀ t', c = '\r' → t = '\n' :: t' → False)
    (hlast : c = '\r' → t ≠ []) (b : Text) :
    lines (c :: (t ++ '\n' :: b)) =
      if isLineEnd c then [] :: lines (t ++ '\n' :: b)
      else consFirst c (lines (t ++ '\n' :: b)) := by
  apply lines_cons
  intro hc
  cases t with
  | nil => exact absurd rfl (hlast hc)
  | cons d t =>
    rintro ⟨⟩
    exact hreturn t hc rfl

/-- What stands behind a feed falls into lines on its own. -/
theorem lines_append_feed (a b : Text) :
    lines (a ++ '\n' :: b) = lines (a ++ ['\n']) ++ lines b := by
  fun_induction lines a with
  | case1 => rfl
  | case2 t ih => exact congrArg _ ih
  | case3 c t hreturn hend ih =>
    by_cases hlast : c = '\r' ∧ t = []
    · obtain ⟨rfl, rfl⟩ := hlast
      rfl
    · have hstep := lines_cons_feed hreturn fun hc hnil => hlast ⟨hc, hnil⟩
      rw [List.cons_append, List.cons_append, hstep, hstep, if_pos hend, if_pos hend, ih]
      rfl
  | case4 c t hreturn hend ih =>
    have hlast : c = '\r' → t ≠ [] := by
      rintro rfl
      exact absurd (by decide) hend
    have hstep := lines_cons_feed hreturn hlast
    rw [List.cons_append, List.cons_append, hstep, hstep, if_neg hend, if_neg hend, ih]
    exact consFirst_append (lines_ne_nil (by simp)) c _

/-- A feed behind a text ends its last line, or an empty line where the text is empty or ends in a
line end already. -/
theorem lines_feed (a : Text) :
    lines (a ++ ['\n']) = lines a ∨ lines (a ++ ['\n']) = lines a ++ [[]] := by
  fun_induction lines a with
  | case1 => exact Or.inr rfl
  | case2 t ih => exact ih.imp (congrArg _) (congrArg _)
  | case3 c t hreturn hend ih =>
    by_cases hlast : c = '\r' ∧ t = []
    · obtain ⟨rfl, rfl⟩ := hlast
      exact Or.inl rfl
    · rw [List.cons_append, lines_cons_feed hreturn fun hc hnil => hlast ⟨hc, hnil⟩, if_pos hend]
      exact ih.imp (congrArg _) (congrArg _)
  | case4 c t hreturn hend ih =>
    have hlast : c = '\r' → t ≠ [] := by
      rintro rfl
      exact absurd (by decide) hend
    rw [List.cons_append, lines_cons_feed hreturn hlast, if_neg hend]
    by_cases hnil : t = []
    · subst hnil
      exact Or.inl rfl
    · rcases ih with ih | ih
      · exact Or.inl (congrArg _ ih)
      · rw [ih, consFirst_append (lines_ne_nil hnil)]
        exact Or.inr rfl

/-- A text without line ends is one line. -/
theorem lines_unbroken (h : ∀ c ∈ t, isLineEnd c = false) (hne : t ≠ []) : lines t = [t] := by
  induction t with
  | nil => exact absurd rfl hne
  | cons c t ih =>
    obtain ⟨hc, ht⟩ := List.forall_mem_cons.mp h
    have hreturn : c = '\r' → t.head? ≠ some '\n' := by
      rintro rfl
      exact absurd hc (by decide)
    rw [lines_cons hreturn, if_neg (by simp [hc])]
    by_cases hnil : t = []
    · subst hnil
      rfl
    · rw [ih ht hnil]
      rfl

end SchemaDiagram.Text
