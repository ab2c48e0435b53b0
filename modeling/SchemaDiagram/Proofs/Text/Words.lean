import Mathlib
import SchemaDiagram.Proofs.Text.Capitals
import SchemaDiagram.Proofs.Text.Cutting

/-!
Words and lines in upper case. Upper case makes no blank of a letter and leaves blanks as they are,
so a text has the same blanks and line feeds in upper case.
-/
namespace SchemaDiagram.Text

variable {b c d : Char} {t r w : Text} {lines : List Text} {n : Nat}

/-- The pieces of a text between its blanks. -/
def words (t : Text) : List Text := (t.splitOnP isBlank).filter (!·.isEmpty)

/-- A text without blanks. -/
def Blankless (t : Text) : Prop := ∀ c ∈ t, isBlank c = false

instance (t : Text) : Decidable (Blankless t) := List.decidableBAll _ t

theorem words_append (hb : isBlank b = true) (t r : Text) :
    words (t ++ b :: r) = words t ++ words r := by
  rw [words, List.splitOnP_append_cons t r hb, List.filter_append]
  rfl

theorem words_cons (hb : isBlank b = true) (t : Text) : words (b :: t) = words t := by
  simpa [words, List.splitOnP_nil] using words_append hb [] t

theorem words_of_blankless (hne : w ≠ []) (hw : Blankless w) : words w = [w] := by
  rw [words, List.splitOnP_eq_singleton hw]
  simp [hne]

theorem blankless_of_isWord (h : ∀ c ∈ t, isWord c = true) : Blankless t := by
  intro c hc
  by_contra hb
  rw [Bool.not_eq_false] at hb
  exact absurd (h c hc) (by simp [isWord_of_isBlank hb])

theorem squeeze_of_blankless (h : Blankless t) : squeeze t = t := by
  rw [squeeze, List.filter_eq_self]
  intro c hc
  simp [h c hc]

theorem Blankless.not_mem (h : Blankless t) (hb : isBlank b = true) : b ∉ t := by
  intro hm
  simp [h b hm] at hb

theorem takeWhile_blankless (ht : Blankless t) (hr : r.head?.all isBlank = true) :
    (t ++ r).takeWhile (!isBlank ·) = t := by
  have hletters : ∀ c ∈ t, (!isBlank c) = true := fun c hc => by simp [ht c hc]
  rw [List.takeWhile_append_of_pos hletters]
  cases r with
  | nil => simp
  | cons c r =>
    have hc : isBlank c = true := hr
    simp [hc]

/-- Blankless texts are told from what follows them where that is nothing or starts with a blank. -/
theorem append_inj_of_blankless {t' r' : Text} (ht : Blankless t) (ht' : Blankless t')
    (hr : r.head?.all isBlank = true) (hr' : r'.head?.all isBlank = true) (h : t ++ r = t' ++ r') :
    t = t' ∧ r = r' := by
  have hfront := congrArg (List.takeWhile (!isBlank ·)) h
  rw [takeWhile_blankless ht hr, takeWhile_blankless ht' hr'] at hfront
  subst hfront
  exact ⟨rfl, List.append_cancel_left h⟩

theorem upperChar_of_isBlank (h : isBlank c = true) : upperChar c = [c] :=
  inRanges_induction h (by decide)

/-- The images of letters under the runs of letters with another case are no blanks. -/
theorem isBlank_runImage {m : Nat} (h : runImage? upperRuns n = some m) :
    isBlank (Char.ofNat m) = false := by
  have himages : ∀ run ∈ upperRuns, ∀ m ∈ List.range' run.image (run.last + 1 - run.first),
      isBlank (Char.ofNat m) = false := by decide +kernel
  obtain ⟨run, hrun, himage⟩ := List.exists_of_findSome?_eq_some h
  unfold CaseRun.image? at himage
  split at himage
  · next hn =>
    obtain rfl := Option.some.inj himage
    refine himages run hrun _ (List.mem_range'_1.mpr ⟨?_, ?_⟩) <;> omega
  · cases himage

theorem mem_of_lookup {α β : Type} [BEq α] [LawfulBEq α] {k : α} {v : β} {entries : List (α × β)}
    (h : entries.lookup k = some v) : (k, v) ∈ entries := by
  obtain ⟨before, after, rfl, -⟩ := List.lookup_eq_some_iff.mp h
  simp

theorem isBlank_of_mem_upperChar (hd : d ∈ upperChar c) : isBlank d = isBlank c := by
  by_cases hc : isBlank c = true
  · rw [upperChar_of_isBlank hc] at hd
    rw [List.mem_singleton.mp hd]
  · have hexpansions : ∀ entry ∈ upperExpansions, ∀ n ∈ entry.2, isBlank (Char.ofNat n) = false := by
      decide
    rw [Bool.not_eq_true] at hc
    rw [hc]
    unfold upperChar at hd
    split at hd
    · next hascii => rw [List.mem_singleton.mp hd, isBlank_toUpper_of_ascii hascii, hc]
    · split at hd
      · next letters hl =>
        obtain ⟨n, hn, rfl⟩ := List.mem_map.mp hd
        exact hexpansions _ (mem_of_lookup hl) n hn
      · rw [List.mem_singleton.mp hd]
        cases hrun : runImage? upperRuns c.toNat with
        | none => exact hc
        | some m => exact isBlank_runImage hrun

theorem Blankless.upper (h : Blankless t) : Blankless (upper t) := by
  intro d hd
  obtain ⟨c, hc, hd⟩ := List.mem_flatMap.mp hd
  rw [isBlank_of_mem_upperChar hd, h c hc]

theorem upperChar_ne_nil (c : Char) : upperChar c ≠ [] := by
  have hexpansions : ∀ entry ∈ upperExpansions, entry.2 ≠ [] := by decide
  unfold upperChar
  split
  · simp
  · split
    · next letters hl => simpa using hexpansions _ (mem_of_lookup hl)
    · simp

theorem upper_ne_nil (h : t ≠ []) : upper t ≠ [] := by
  obtain ⟨c, t, rfl⟩ := List.exists_cons_of_ne_nil h
  simp [upper, upperChar_ne_nil]

/-- A blank occurs in upper case as often as in the text itself. -/
theorem count_upper (hb : isBlank b = true) (t : Text) : (upper t).count b = t.count b := by
  induction t with
  | nil => rfl
  | cons c t ih =>
    have hchar : (upperChar c).count b = [c].count b := by
      by_cases hc : isBlank c = true
      · rw [upperChar_of_isBlank hc]
      · have hne : c ≠ b := by
          rintro rfl
          exact hc hb
        rw [List.count_eq_zero_of_not_mem, List.count_eq_zero_of_not_mem]
        · simpa using hne.symm
        · intro hm
          exact hc (by rw [← isBlank_of_mem_upperChar hm, hb])
    calc (upper (c :: t)).count b = (upperChar c).count b + (upper t).count b := List.count_append
      _ = [c].count b + t.count b := by rw [hchar, ih]
      _ = (c :: t).count b := List.count_append.symm

theorem length_splitAt (c : Char) (t : Text) : (splitAt c t).length = t.count c + 1 := by
  induction t with
  | nil => rfl
  | cons d t ih =>
    rw [splitAt]
    split
    · next h =>
      subst h
      simp [ih]
    · next h =>
      obtain ⟨piece, pieces, hp⟩ : ∃ piece pieces, splitAt c t = piece :: pieces :=
        List.exists_cons_of_length_pos (by omega)
      rw [hp] at ih ⊢
      simpa [consFirst, h] using ih

theorem count_join (c : Char) (h : lines ≠ []) :
    (join [c] lines).count c + 1 = lines.length + (lines.map (·.count c)).sum := by
  induction lines with
  | nil => exact absurd rfl h
  | cons line lines ih =>
    cases lines with
    | nil => simp [join, Nat.add_comm]
    | cons next lines =>
      have ih := ih (by simp)
      simp only [join, List.count_append, List.count_singleton_self, List.length_cons,
        List.map_cons, List.sum_cons] at ih ⊢
      omega

/-- Lines that are joined by a character make as many pieces again, and one more for each time that
the character stands in one of them. -/
theorem length_splitAt_join (c : Char) (h : lines ≠ []) :
    (splitAt c (join [c] lines)).length = lines.length + (lines.map (·.count c)).sum := by
  rw [length_splitAt, count_join c h]

theorem splitAt_append_cons (c : Char) (t r : Text) :
    splitAt c (t ++ c :: r) = splitAt c t ++ splitAt c r := by
  induction t with
  | nil => simp [splitAt]
  | cons d t ih =>
    by_cases hd : d = c
    · simp [splitAt, hd, ih]
    · obtain ⟨piece, pieces, hp⟩ : ∃ piece pieces, splitAt c t = piece :: pieces :=
        List.exists_cons_of_length_pos (by simp [length_splitAt])
      simp [splitAt, hd, ih, hp, consFirst]

/-- A joined text is cut where its lines are cut, and between them. -/
theorem splitAt_join_eq_flatMap (hne : lines ≠ []) :
    splitAt c (join [c] lines) = lines.flatMap (splitAt c) := by
  induction lines with
  | nil => exact absurd rfl hne
  | cons line lines ih =>
    cases lines with
    | nil => simp [join]
    | cons next lines =>
      have hjoin : join [c] (line :: next :: lines) = line ++ c :: join [c] (next :: lines) := by
        simp [join]
      rw [hjoin, splitAt_append_cons, ih (by simp)]
      rfl

/-- Lines without the character between them are what the joined text is cut into. -/
theorem splitAt_join_lines (hne : lines ≠ []) (h : ∀ line ∈ lines, c ∉ line) :
    splitAt c (join [c] lines) = lines := by
  rw [splitAt_join_eq_flatMap hne, List.flatMap_congr fun line hline => splitAt_of_not_mem (h line hline)]
  simp

end SchemaDiagram.Text
