import SchemaDiagram.Text.Case
import SchemaDiagram.Text.Keyword

/-!
Plain texts: letters of the Latin alphabet, digits and the low line. Words and keywords are read
off their front up to the first character that is in no word.
-/
namespace SchemaDiagram.Text

/-- A letter of the Latin alphabet, a digit or the low line. -/
def isPlain (c : Char) : Bool := c.isAlphanum || c == '_'

/-- A text of plain characters. -/
def Plain (t : Text) : Prop := ∀ c ∈ t, isPlain c = true

/-- A text of the first 128 characters. -/
def Ascii (t : Text) : Prop := ∀ c ∈ t, c.toNat < 128

instance (t : Text) : Decidable (Plain t) := List.decidableBAll _ t

instance (t : Text) : Decidable (Ascii t) := List.decidableBAll _ t

variable {c : Char} {t w r : Text} {α : Type}

theorem isPlain_iff : isPlain c = true ↔
    c.isUpper = true ∨ c.isLower = true ∨ c.isDigit = true ∨ c = '_' := by
  have h : isPlain c = (c.isUpper || c.isLower || c.isDigit || c == '_') := rfl
  simp [h, or_assoc]

theorem isPlain_of_isUpper (h : c.isUpper = true) : isPlain c = true :=
  isPlain_iff.mpr (Or.inl h)

theorem isPlain_of_isDigit (h : c.isDigit = true) : isPlain c = true :=
  isPlain_iff.mpr (Or.inr (Or.inr (Or.inl h)))

theorem ascii_of_isPlain (h : isPlain c = true) : c.toNat < 128 := by
  rcases isPlain_iff.mp h with h | h | h | rfl
  · have hz : c.val ≤ 'Z'.val := (of_decide_eq_true h).2
    exact Nat.lt_of_le_of_lt (UInt32.le_iff_toNat_le.mp hz) (by decide)
  · have hz : c.val ≤ 'z'.val := of_decide_eq_true ((Bool.and_eq_true _ _).mp h).2
    exact Nat.lt_of_le_of_lt (UInt32.le_iff_toNat_le.mp hz) (by decide)
  · exact Nat.lt_of_le_of_lt (Char.isDigit_iff_toNat.mp h).2 (by decide)
  · decide

/-- What holds of each of the first 128 characters holds of all that are among them. -/
@[elab_as_elim]
theorem ascii_induction {p : Char → Prop} (hc : c.toNat < 128)
    (h : ∀ n < 128, p (Char.ofNat n)) : p c := by
  have hp := h c.toNat hc
  rwa [Char.ofNat_toNat] at hp

@[elab_as_elim]
theorem isPlain_induction {p : Char → Prop} (hc : isPlain c = true)
    (h : ∀ n < 128, isPlain (Char.ofNat n) = true → p (Char.ofNat n)) : p c := by
  have hp := h c.toNat (ascii_of_isPlain hc)
  rw [Char.ofNat_toNat] at hp
  exact hp hc

theorem ne_of_isPlain {d : Char} (h : isPlain c = true) (hd : isPlain d = false) : c ≠ d := by
  rintro rfl
  simp [h] at hd

theorem isWord_of_ascii (h : c.toNat < 128) : isWord c = isPlain c := by
  simp [isWord, isPlain, h]

theorem isWord_of_isPlain (h : isPlain c = true) : isWord c = true := by
  rw [isWord_of_ascii (ascii_of_isPlain h), h]

theorem isBlank_of_isPlain (h : isPlain c = true) : isBlank c = false :=
  isPlain_induction h (by decide)

/-- What holds of each character of some ranges holds of all that lie in them. -/
@[elab_as_elim]
theorem inRanges_induction {ranges : List (Nat × Nat)} {p : Char → Prop}
    (hc : inRanges ranges c = true)
    (h : ∀ r ∈ ranges, ∀ n ∈ List.range' r.1 (r.2 + 1 - r.1), p (Char.ofNat n)) : p c := by
  obtain ⟨r, hr, hn⟩ := List.any_eq_true.mp hc
  obtain ⟨hfirst, hlast⟩ : r.1 ≤ c.toNat ∧ c.toNat ≤ r.2 := by simpa using hn
  have hp := h r hr c.toNat (List.mem_range'_1.mpr ⟨hfirst, by omega⟩)
  rwa [Char.ofNat_toNat] at hp

theorem isWord_of_isBlank (h : isBlank c = true) : isWord c = false :=
  inRanges_induction h (by decide +kernel)

theorem capital_of_ascii (h : c.toNat < 128) : capital c = c.toUpper :=
  ascii_induction h (by decide)

theorem isPlain_toUpper_of_ascii (h : c.toNat < 128) : isPlain c.toUpper = isPlain c :=
  ascii_induction h (by decide)

/-- The letters past the first 128 characters that stand for letters of keywords. -/
def capitalised : List Char := ['\u017F', '\u212A', '\u0130', '\u0131']

theorem capital_of_not_ascii (h : ¬ c.toNat < 128) : c ∈ capitalised ∨ capital c = c := by
  have hupper : c.toUpper = c := by
    unfold Char.toUpper
    rw [dif_neg]
    rintro ⟨_, hz⟩
    have hn : c.toNat = c.val.toNat := rfl
    have hz : c.val.toNat ≤ 122 := hz
    omega
  unfold capital
  split
  · next he => exact Or.inl (by simp [he, capitalised])
  split
  · next he => exact Or.inl (by simp [he, capitalised])
  split
  · next he => exact Or.inl (by rcases he with rfl | rfl <;> simp [capitalised])
  · exact Or.inr hupper

/-- Past the first 128 characters, only letters stand for the letters of keywords. -/
theorem isWord_of_capital (h : isPlain (capital c) = true) : isWord c = true := by
  have hword : capitalised.all isWord = true := by decide +kernel
  by_cases hc : c.toNat < 128
  · rw [capital_of_ascii hc, isPlain_toUpper_of_ascii hc] at h
    exact isWord_of_isPlain h
  · rcases capital_of_not_ascii hc with hmem | heq
    · exact List.all_eq_true.mp hword c hmem
    · rw [heq] at h
      exact (hc (ascii_of_isPlain h)).elim

theorem Plain.ascii (h : Plain t) : Ascii t := fun c hc => ascii_of_isPlain (h c hc)

theorem plain_cons : Plain (c :: t) ↔ isPlain c = true ∧ Plain t := List.forall_mem_cons

theorem Plain.not_mem (h : Plain t) (hc : isPlain c = false) : c ∉ t := by
  intro hm
  simp [h c hm] at hc

@[simp] theorem upper_nil : upper [] = [] := rfl

theorem upper_cons (h : c.toNat < 128) : upper (c :: t) = c.toUpper :: upper t := by
  simp [upper, upperChar, h]

/-- A keyword is read off a whole word that is the keyword in capitals, and off no other. -/
theorem afterCapitals_bind {k : Text} (go : Text → Option α) (hk : Plain k) (hw : Plain w)
    (hr : atWordEnd r = true) (hgo : ∀ c t, isPlain c = true → go (c :: t) = none) :
    (afterCapitals k (w ++ r) >>= go) = if upper w = k then go r else none := by
  induction k generalizing w with
  | nil =>
    cases w with
    | nil => simp [afterCapitals]
    | cons c w =>
      have hc := (plain_cons.mp hw).1
      simp [afterCapitals, hgo c _ hc, upper_cons (ascii_of_isPlain hc)]
  | cons a k ih =>
    obtain ⟨ha, hk⟩ := plain_cons.mp hk
    cases w with
    | nil =>
      cases r with
      | nil => simp [afterCapitals]
      | cons c r =>
        have hne : capital c ≠ a := by
          rintro rfl
          simp [atWordEnd, isWord_of_capital ha] at hr
        simp [afterCapitals, hne]
    | cons c w =>
      obtain ⟨hc, hw⟩ := plain_cons.mp hw
      have hascii := ascii_of_isPlain hc
      by_cases he : c.toUpper = a
      · simpa [afterCapitals, capital_of_ascii hascii, upper_cons hascii, he] using ih hk hw
      · simp [afterCapitals, capital_of_ascii hascii, upper_cons hascii, he]

theorem skipBlanks_cons (h : isBlank c = false) : skipBlanks (c :: t) = c :: t := by
  simp [skipBlanks, h]

theorem skipBlanks_append (hw : Plain w) (hne : w ≠ []) : skipBlanks (w ++ r) = w ++ r := by
  obtain ⟨c, w, rfl⟩ := List.exists_cons_of_ne_nil hne
  exact skipBlanks_cons (isBlank_of_isPlain (plain_cons.mp hw).1)

theorem gap?_blank : gap? (' ' :: t) = some (skipBlanks t) := rfl

theorem gap?_of_isPlain (h : isPlain c = true) : gap? (c :: t) = none := by
  simp [gap?, isBlank_of_isPlain h]

theorem keywordGap?_bind {k : String} (go : Text → Option α) (hk : Plain k.toList) (hw : Plain w)
    (hr : atWordEnd r = true) :
    (keywordGap? k (w ++ r) >>= go) = if upper w = k.toList then gap? r >>= go else none := by
  have hgo : ∀ c t, isPlain c = true → (gap? (c :: t) >>= go) = none := by
    intro c t hc
    simp [gap?_of_isPlain hc]
  have h := afterCapitals_bind (fun t => gap? t >>= go) hk hw hr hgo
  rw [← h]
  exact Option.bind_assoc _ _ _

theorem wholeKeyword?_append {k : String} (hk : Plain k.toList) (hw : Plain w)
    (hr : atWordEnd r = true) :
    wholeKeyword? k (w ++ r) = if upper w = k.toList then some r else none := by
  have hgo : ∀ c t, isPlain c = true → Option.guard atWordEnd (c :: t) = none := by
    intro c t hc
    simp [Option.guard, atWordEnd, isWord_of_isPlain hc]
  have h := afterCapitals_bind _ hk hw hr hgo
  rw [Option.bind_eq_bind, Option.bind_guard] at h
  simpa [wholeKeyword?, keyword?, Option.guard, hr] using h

end SchemaDiagram.Text
