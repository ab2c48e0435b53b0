import Mathlib.Data.List.Induction
import SchemaDiagram.Proofs.Sql.Remarks.Cleaning
import SchemaDiagram.Proofs.Sql.Remarks.Readers

/-!
Lexemes around a comment. Where a lexeme starts at the mark of a comment, the lexemes before it are
those of the text before it, and those after it are the same whatever the comment says.
-/
namespace SchemaDiagram.Sql

open Text (Opens Mark)

namespace Lexeme

open Text (LocalAt Apart)

variable {z y : Text}

theorem localAt_rules (before : Option Char) (hy : y ≠ []) :
    ∀ rule ∈ rules, LocalAt (rule.2 before) y := by
  have hor : ∀ c ∈ "OR".toList, Apart c := by decide
  simp only [rules, List.forall_mem_cons]
  refine ⟨localAt_lineHint hy, localAt_block hy (by decide), localAt_lineComment hy,
    localAt_block hy (by decide), localAt_operator? _ y, clear_blank.localAt y,
    localAt_operator? _ y, localAt_literal? (by decide) y, localAt_literal? (by decide) y,
    localAt_dollarLiteral? before y, Text.localAt_after? _ y, clear_percentMark?.localAt y,
    (clear_valueMark? before).localAt y, clear_escapedWord?.localAt y,
    (clear_oneOf (by decide)).localAt y, clear_markedName?.localAt y, clear_beforeDot?.localAt y,
    (clear_afterDot? before).localAt y, clear_called?.localAt y, clear_hexNumber?.localAt y,
    clear_powerNumber?.localAt y, clear_fraction?.localAt y, clear_integer?.localAt y,
    localAt_literal? (by decide) y, localAt_literal? (by decide) y, localAt_bracketName? before y,
    (clear_pair? (by decide) (by decide)).localAt y,
    (Text.clear_wholeKeyword? (by decide)).localAt y,
    ((Text.clear_keywordGap? (by decide)).bind (clear_pair? hor (by decide))).localAt y,
    (Text.clear_wholeKeyword? (by decide)).localAt y,
    (clear_pair? (by decide) (by decide)).localAt y, clear_countedGo?.localAt y,
    clear_plainWord?.localAt y, clear_sign?.localAt y, localAt_operator? _ y, localAt_run? hy,
    localAt_run? hy, List.forall_mem_nil _⟩

/-- A lexeme that does not reach past the mark of a comment is what it is without the comment. -/
theorem front_append {before : Option Char} (hz : Opens z) (hy : y ≠ [])
    (hstops : z.length ≤ (front before (y ++ z)).2.length) :
    front before (y ++ z) = ((front before y).1, (front before y).2 ++ z) := by
  have hdrop : (y ++ z).drop 1 = y.drop 1 ++ z := by
    cases y with
    | nil => exact absurd rfl hy
    | cons c y => rfl
  unfold front at hstops ⊢
  rw [hdrop] at hstops ⊢
  rw [Text.findSome?_append hz rules (localAt_rules before hy)]
  · cases rules.findSome? fun rule => (rule.2 before y).map (rule.1, ·) <;> rfl
  · intro found hfound
    rw [hfound] at hstops
    exact hstops

theorem all_cons (before : Option Char) (c : Char) (t : Text) : all before (c :: t) =
    ⟨(front before (c :: t)).1, c :: t.take (t.length - (front before (c :: t)).2.length)⟩ ::
      all (c :: t.take (t.length - (front before (c :: t)).2.length)).getLast?
        (t.drop (t.length - (front before (c :: t)).2.length)) := by
  rw [all]

/-- The first lexeme of a text is the same where it does not reach past the mark of a comment. -/
theorem all_cons_append {before : Option Char} {c : Char} (hz : Opens z)
    (hstops : z.length ≤ (front before (c :: y ++ z)).2.length) :
    ∃ kind n, all before (c :: y) =
        ⟨kind, c :: y.take n⟩ :: all (c :: y.take n).getLast? (y.drop n) ∧
      all before (c :: y ++ z) =
        ⟨kind, c :: y.take n⟩ :: all (c :: y.take n).getLast? (y.drop n ++ z) := by
  have hfront := front_append hz (List.cons_ne_nil c y) hstops
  have hsize : (y ++ z).length - ((front before (c :: y)).2 ++ z).length =
      y.length - (front before (c :: y)).2.length := by
    simp only [List.length_append]
    omega
  have hle : y.length - (front before (c :: y)).2.length ≤ y.length := Nat.sub_le _ _
  refine ⟨_, _, all_cons before c y, ?_⟩
  rw [List.cons_append] at hfront ⊢
  rw [all_cons, hfront, hsize, List.take_append_of_le_length hle, List.drop_append_of_le_length hle]

/-- A text whose lexemes start with some that make up its part before a place. -/
def Reaches (before : Option Char) (y z : Text) : Prop :=
  ∃ ls, ls <+: all before (y ++ z) ∧ join ls = y

/-- A first lexeme within the text before a mark is read without the mark. -/
theorem Reaches.stops {before : Option Char} {c : Char} {l : Lexeme} {ls : List Lexeme}
    (hls : l :: ls <+: all before (c :: y ++ z)) (hjoin : l.text ++ join ls = c :: y) :
    z.length ≤ (front before (c :: y ++ z)).2.length := by
  rw [List.cons_append, all_cons] at hls
  rw [(List.cons_prefix_cons.mp hls).1] at hjoin
  have hlength := congrArg List.length hjoin
  simp only [List.length_cons, List.length_append, List.length_take] at hlength
  rw [List.cons_append]
  omega

/-- Where a lexeme starts at the mark of a comment, the lexemes before it are those of the text
before it. -/
theorem all_append {before : Option Char} (hz : Opens z) (h : Reaches before y z) :
    all before (y ++ z) = all before y ++ all (y.getLast?.or before) z := by
  obtain ⟨ls, hls, hjoin⟩ := h
  induction ls generalizing before y with
  | nil =>
    obtain rfl : [] = y := hjoin
    simp [all]
  | cons l ls ih =>
    have hjoin : l.text ++ join ls = y := by simpa [join] using hjoin
    cases y with
    | nil =>
      obtain ⟨c, t, rfl, -⟩ := hz.exists_cons
      rw [List.nil_append, all_cons] at hls
      rw [(List.cons_prefix_cons.mp hls).1] at hjoin
      cases hjoin
    | cons c y =>
      obtain ⟨kind, n, hshort, hlong⟩ := all_cons_append hz (Reaches.stops hls hjoin)
      rw [hlong] at hls
      obtain ⟨rfl, htail⟩ := List.cons_prefix_cons.mp hls
      have hrest : join ls = y.drop n := by
        have hsplit := (List.cons.inj hjoin).2.trans (List.take_append_drop n y).symm
        exact List.append_cancel_left hsplit
      have hlast : (y.drop n).getLast?.or (c :: y.take n).getLast? = (c :: y).getLast?.or before := by
        rw [← List.getLast?_append, List.cons_append, List.take_append_drop,
          List.getLast?_eq_some_getLast (List.cons_ne_nil c y)]
        rfl
      rw [hlong, hshort, ih htail hrest, hlast, List.cons_append]

end Lexeme

/-- Words that a comment of a kind may say before a text: it ends where it should, and it is no
hint. -/
inductive Fits : Mark → Text → Text → Prop where
  | line {words post : Text} (hwords : ∀ c ∈ words, c ≠ '\n' ∧ c ≠ '\r')
    (hpost : ∀ c ∈ post.head?, c = '\n' ∨ c = '\r') : Fits .line words post
  | block {words : Text} (hplus : words.head? ≠ some '+')
    (hend : Lexeme.afterBlock? (words ++ "*/".toList) = some []) (post : Text) :
    Fits .block words post

namespace Lexeme

end Lexeme

theorem stops_line {words : Text} (h : ∀ c ∈ words, c ≠ '\n' ∧ c ≠ '\r') :
    Stops (Mark.line.say words) := by
  induction words using List.reverseRecOn with
  | nil => exact ⟨['-'], '-', 1, rfl, by decide⟩
  | append_singleton words c ih =>
    by_cases hc : c = ' '
    · obtain ⟨u, d, n, hu, hd⟩ := ih fun e he => h e (List.mem_append_left [c] he)
      have hsay : Mark.line.say (words ++ [c]) = Mark.line.say words ++ [' '] := by
        rw [hc, Mark.say, Mark.say, List.append_assoc]
      refine ⟨u, d, n + 1, ?_, hd⟩
      rw [hsay, hu, List.replicate_succ', List.append_assoc, List.cons_append]
    · exact ⟨"-- ".toList ++ words, c, 0, by simp [Mark.say], hc,
        h c (List.mem_append_right words (List.mem_singleton_self c))⟩

theorem Fits.stops {m : Mark} {words post : Text} (h : Fits m words post) : Stops (m.say words) := by
  cases h with
  | line hwords _ => exact stops_line hwords
  | block => exact ⟨"/*".toList ++ words ++ ['*'], '/', 0, by simp [Mark.say], by decide⟩

/-- A place of a script where a comment says some words. -/
structure Says (m : Mark) (pre words post : Text) : Prop where
  /-- The lexemes of the script start with those of the text before the comment. -/
  reaches : Lexeme.Reaches none pre (m.say words ++ post)
  fits : Fits m words post

end SchemaDiagram.Sql
