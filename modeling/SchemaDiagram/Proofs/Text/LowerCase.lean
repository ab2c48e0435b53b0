import SchemaDiagram.Proofs.Text.Searching
import SchemaDiagram.Proofs.Text.Words

/-!
The upper case of the lower case. Texts that agree in lower case agree in upper case, too, but for
six letters that share their lower case with another letter and keep an upper case of their own.
-/
namespace SchemaDiagram.Text

variable {c : Char} {t u : Text} {n m lo hi : Nat}

/-- The capitals that are not the upper case of their lower case: the I with a dot, capital forms of
theta and of the sharp s, and the signs of the ohm, the kelvin and the angstrom. -/
def loneCapitals : List Char := ['\u0130', '\u03F4', '\u1E9E', '\u2126', '\u212A', '\u212B']

/-- A text without those capitals. -/
def Paired (t : Text) : Prop := ∀ c ∈ t, c ∉ loneCapitals

instance (t : Text) : Decidable (Paired t) := List.decidableBAll _ t

/-- The upper case that some tables give to a letter past the first 128. -/
def upperPoints (expansions : List (Nat × List Nat)) (runs : List CaseRun) (n : Nat) : List Nat :=
  (expansions.lookup n).getD [(runImage? runs n).getD n]

/-- The upper case as the tables give it that keep only what reaches into a range. -/
def upperWithin (lo hi : Nat) : Nat → List Nat :=
  upperPoints (upperExpansions.filter fun entry => lo.ble entry.1 && entry.1.ble hi)
    (upperRuns.filter fun run => run.first.ble hi && lo.ble run.last)

theorem lookup_filter {α : Type} {p : Nat × α → Bool} (hp : ∀ a, p (n, a) = true)
    (entries : List (Nat × α)) : (entries.filter p).lookup n = entries.lookup n := by
  induction entries with
  | nil => rfl
  | cons entry entries ih =>
    obtain ⟨k, a⟩ := entry
    by_cases hk : n = k
    · subst hk
      simp [hp]
    · have hne : (n == k) = false := by simpa using hk
      cases h : p (k, a) <;> simp [h, List.lookup_cons, hne, ih]

theorem runImage?_filter {p : CaseRun → Bool} {runs : List CaseRun}
    (hp : ∀ run, run.first ≤ n → n ≤ run.last → p run = true) :
    runImage? (runs.filter p) n = runImage? runs n := by
  unfold runImage?
  induction runs with
  | nil => rfl
  | cons run runs ih =>
    cases h : p run with
    | true => simp [h, List.findSome?_cons, ih]
    | false =>
      have hnone : run.image? n = none := by
        rw [CaseRun.image?, if_neg]
        rintro ⟨hfirst, hlast, -⟩
        simp [hp run hfirst hlast] at h
      simp [h, hnone, ih]

theorem upperWithin_eq (hlo : lo ≤ n) (hhi : n ≤ hi) :
    upperWithin lo hi n = upperPoints upperExpansions upperRuns n := by
  rw [upperWithin, upperPoints, upperPoints, lookup_filter, runImage?_filter]
  · intro run hfirst hlast
    simpa using ⟨hfirst.trans hhi, hlo.trans hlast⟩
  · simpa using ⟨hlo, hhi⟩

theorem upperChar_eq_points (h : ¬ c.toNat < 0x80) :
    upperChar c = (upperPoints upperExpansions upperRuns c.toNat).map Char.ofNat := by
  rw [upperChar, if_neg h, upperPoints]
  cases upperExpansions.lookup c.toNat with
  | some letters => rfl
  | none => cases runImage? upperRuns c.toNat <;> simp

/-- The letter that a run gives for the lower case has the upper case of the letter that it is for.
Of the tables for the upper case, only what reaches into the two ranges is looked at. -/
theorem upperPoints_runImage (h : runImage? lowerRuns n = some m)
    (hn : n ∉ loneCapitals.map Char.toNat) :
    m.isValidChar ∧ ¬ n < 0x80 ∧ ¬ m < 0x80 ∧
      upperPoints upperExpansions upperRuns m = upperPoints upperExpansions upperRuns n := by
  have htable : ∀ run ∈ lowerRuns, ∀ i ∈ List.range (run.last + 1 - run.first),
      i % run.step = 0 → run.first + i ∉ loneCapitals.map Char.toNat →
        (run.image + i).isValidChar ∧ ¬ run.first + i < 0x80 ∧ ¬ run.image + i < 0x80 ∧
          upperWithin run.image (run.image + (run.last - run.first)) (run.image + i) =
            upperWithin run.first run.last (run.first + i) := by
    decide +kernel
  obtain ⟨run, hrun, himage⟩ := List.exists_of_findSome?_eq_some h
  unfold CaseRun.image? at himage
  split at himage
  · next hrange =>
    obtain rfl := Option.some.inj himage
    have hfirst : run.first + (n - run.first) = n := by omega
    have hletter := htable run hrun (n - run.first) (List.mem_range.mpr (by omega)) hrange.2.2
    rw [hfirst, upperWithin_eq (by omega) (by omega),
      upperWithin_eq (by omega) (by omega)] at hletter
    exact hletter hn
  · cases himage

theorem upper_lowerChar (h : c ∉ loneCapitals) : upper (lowerChar c) = upperChar c := by
  have hsingle : ∀ d, upper [d] = upperChar d := fun d => List.append_nil _
  unfold lowerChar
  split
  · next hascii =>
    exact ascii_induction (p := fun c => upper [c.toLower] = upperChar c) hascii (by decide)
  split
  · next hdot => exact absurd (by simp [hdot, loneCapitals]) h
  · cases hrun : runImage? lowerRuns c.toNat with
    | none => exact hsingle c
    | some m =>
      have hlone : c.toNat ∉ loneCapitals.map Char.toNat := by
        intro hm
        obtain ⟨d, hd, heq⟩ := List.mem_map.mp hm
        exact h (Char.toNat_inj.mp heq ▸ hd)
      obtain ⟨hvalid, hc, hm, hpoints⟩ := upperPoints_runImage hrun hlone
      have htoNat : (Char.ofNat m).toNat = m := by
        rw [Char.ofNat, dif_pos hvalid]
        rfl
      rw [Option.map_some, Option.getD_some, hsingle, upperChar_eq_points (by rwa [htoNat]),
        upperChar_eq_points hc, htoNat, hpoints]

/-- Both small sigmas have the capital sigma as their upper case. -/
theorem upper_lowerAfter (h : Paired t) (inWord : Bool) :
    upper (lowerAfter inWord t) = upper t := by
  induction t generalizing inWord with
  | nil => rfl
  | cons c t ih =>
    obtain ⟨hc, ht⟩ := List.forall_mem_cons.mp h
    have hcons : upper (c :: t) = upperChar c ++ upper t := rfl
    rw [lowerAfter, upper_append, ih ht, hcons]
    congr 1
    split
    · next hsigma =>
      subst hsigma
      split <;> decide
    · exact upper_lowerChar hc

theorem upper_lower (h : Paired t) : upper (lower t) = upper t := upper_lowerAfter h false

theorem upper_eq_of_lower_eq (ht : Paired t) (hu : Paired u) (h : lower t = lower u) :
    upper t = upper u := by
  rw [← upper_lower ht, h, upper_lower hu]

end SchemaDiagram.Text
