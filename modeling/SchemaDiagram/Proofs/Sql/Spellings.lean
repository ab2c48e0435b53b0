import SchemaDiagram.Proofs.Sql.Keywords
import SchemaDiagram.Proofs.Sql.Scanning
import SchemaDiagram.Proofs.Sql.Types
import SchemaDiagram.Proofs.Text.Searching
import SchemaDiagram.Proofs.Text.Words

/-!
Types read once more. The words of a type are kept in a spelling that is read back as it stands, and
between two of them stands the one blank that parts them, so a type that was read is its own type.
-/
namespace SchemaDiagram.Sql

variable {c d : Char} {t r s w word rest blanks : Text} {ss : List Text} {k : String}

/-- A word of a type is over here with all that belongs to it. -/
structure Parting (r : Text) : Prop where
  ended : ∀ c ∈ r.head?, Text.isWord c = false ∧ c ≠ '.'
  bare : ∀ c ∈ (Text.skipBlanks r).head?, c ≠ '(' ∧ c ≠ '['

theorem parting_nil : Parting [] := ⟨by simp, by simp [Text.skipBlanks]⟩

theorem atWordEnd_of_ended (h : ∀ c ∈ r.head?, Text.isWord c = false ∧ c ≠ '.') :
    Text.atWordEnd r = true := by
  cases r with
  | nil => rfl
  | cons c r => simp [Text.atWordEnd, (h c rfl).1]

theorem isBlank_of_isWord (h : Text.isWord c = true) : Text.isBlank c = false := by
  by_contra hblank
  rw [Text.isWord_of_isBlank (by simpa using hblank)] at h
  cases h

theorem startsWord_append_right (h : startsWord w = true) (r : Text) :
    startsWord (w ++ r) = true := by
  cases w with
  | nil => cases h
  | cons => exact h

theorem skipBlanks_of_startsWord (hw : startsWord w = true) : Text.skipBlanks w = w := by
  cases w with
  | nil => rfl
  | cons c w => exact Text.skipBlanks_cons (isBlank_of_isWord hw)

theorem skipBlanks_blanks (hb : Text.allBlank blanks = true) (hw : startsWord w = true) :
    Text.skipBlanks (blanks ++ w) = w := by
  rw [Text.skipBlanks, List.dropWhile_append_of_pos (List.all_eq_true.mp hb)]
  exact skipBlanks_of_startsWord hw

theorem parting_blanks (hne : blanks ≠ []) (hb : Text.allBlank blanks = true)
    (hw : startsWord w = true) : Parting (blanks ++ w) := by
  constructor
  · obtain ⟨b, blanks, rfl⟩ := List.exists_cons_of_ne_nil hne
    have hblank := List.all_eq_true.mp hb b List.mem_cons_self
    rintro c ⟨⟩
    refine ⟨Text.isWord_of_isBlank hblank, ?_⟩
    rintro rfl
    exact absurd hblank (by decide)
  · rw [skipBlanks_blanks hb hw]
    intro c hc
    obtain ⟨w, rfl⟩ := List.head?_eq_some_iff.mp hc
    have hword : Text.isWord c = true := hw
    constructor <;> rintro rfl <;> exact absurd hword (by decide)

theorem forall_mem_of_dotted (h : dottedWord w = (w, [])) :
    ∀ c ∈ w, Text.isWord c = true ∨ c = '.' := by
  induction w with
  | nil => simp
  | cons c w ih =>
    rw [dottedWord] at h
    split at h
    · next hc =>
      obtain ⟨hw, hrest⟩ : (dottedWord w).1 = w ∧ (dottedWord w).2 = [] := by simpa using h
      refine List.forall_mem_cons.mpr ⟨?_, ih (Prod.ext hw hrest)⟩
      exact (Bool.or_eq_true_iff.mp hc).imp_right fun hdot => by
        simpa using (Bool.and_eq_true_iff.mp hdot).1
    · cases h

theorem blankless_of_dotted (h : dottedWord w = (w, [])) : Text.Blankless w := by
  intro c hc
  rcases forall_mem_of_dotted h c hc with hc | rfl
  · exact isBlank_of_isWord hc
  · rfl

theorem arraySuffixes_of_some {suffix : Text} (h : arraySuffix? t = some (suffix, r)) :
    arraySuffixes t = (suffix ++ (arraySuffixes r).1, (arraySuffixes r).2) := by
  rw [arraySuffixes]
  split
  · next heq => simp [h] at heq
  · next heq =>
    rw [h] at heq
    cases heq
    rfl

theorem isBlank_of_isDigit (h : Text.isDigit c = true) : Text.isBlank c = false := by
  by_contra hblank
  have hnone : Text.isDigit c = false :=
    Text.inRanges_induction (by simpa using hblank : Text.isBlank c = true) (by decide)
  simp [h] at hnone

/-- A word of a type in the spelling that is kept: its letters with dots between them, arguments and
the length in each pair of brackets, without blanks. -/
structure Spelling where
  word : Text
  arguments : Option Text
  lengths : List Text
  starts : startsWord word = true
  dotted : dottedWord word = (word, [])
  arguments_kept : ∀ a ∈ arguments, Text.Blankless a ∧ ')' ∉ a
  lengths_digits : ∀ n ∈ lengths, ∀ c ∈ n, Text.isDigit c = true

namespace Spelling

def list (u : Spelling) : Text :=
  match u.arguments with
  | some a => '(' :: (a ++ [')'])
  | none => []

def brackets (u : Spelling) : Text := u.lengths.flatMap fun n => '[' :: (n ++ [']'])

def text (u : Spelling) : Text := u.word ++ (u.list ++ u.brackets)

variable {u : Spelling}

theorem arraySuffix?_bracket {n : Text} (hn : ∀ c ∈ n, Text.isDigit c = true) (r : Text) :
    arraySuffix? ('[' :: (n ++ ']' :: r)) = some ('[' :: (n ++ [']']), r) := by
  have hopen : Text.skipBlanks ('[' :: (n ++ ']' :: r)) = '[' :: (n ++ ']' :: r) := rfl
  have hskip : Text.skipBlanks (n ++ ']' :: r) = n ++ ']' :: r := by
    cases n with
    | nil => rfl
    | cons c n => exact Text.skipBlanks_cons (isBlank_of_isDigit (hn c List.mem_cons_self))
  have hclose : Text.isDigit ']' = false := by decide
  have htake : (n ++ ']' :: r).takeWhile Text.isDigit = n := by
    rw [List.takeWhile_append_of_pos hn, List.takeWhile_cons_of_neg (by simp [hclose]),
      List.append_nil]
  have hdrop : (n ++ ']' :: r).dropWhile Text.isDigit = ']' :: r := by
    rw [List.dropWhile_append_of_pos hn, List.dropWhile_cons_of_neg (by simp [hclose])]
  have hend : Text.skipBlanks (']' :: r) = ']' :: r := rfl
  rw [arraySuffix?, hopen]
  simp only [hskip, htake, hdrop, hend, List.cons_append]

theorem arraySuffixes_brackets (u : Spelling)
    (hr : ∀ c ∈ (Text.skipBlanks r).head?, c ≠ '[') :
    arraySuffixes (u.brackets ++ r) = (u.brackets, r) := by
  have hdigits := u.lengths_digits
  unfold brackets
  generalize u.lengths = lengths at hdigits
  induction lengths with
  | nil => exact arraySuffixes_of_bare hr
  | cons n lengths ih =>
    obtain ⟨hn, hlengths⟩ := List.forall_mem_cons.mp hdigits
    have hread := arraySuffix?_bracket hn (lengths.flatMap (fun n => '[' :: (n ++ [']'])) ++ r)
    have htext : (n :: lengths).flatMap (fun n => '[' :: (n ++ [']'])) ++ r =
        '[' :: (n ++ ']' :: (lengths.flatMap (fun n => '[' :: (n ++ [']'])) ++ r)) := by
      simp
    rw [htext, arraySuffixes_of_some hread, ih hlengths]
    simp

theorem head?_brackets (u : Spelling) (hr : ∀ c ∈ (Text.skipBlanks r).head?, c ≠ '(') :
    ∀ c ∈ (Text.skipBlanks (u.brackets ++ r)).head?, c ≠ '(' := by
  unfold brackets
  cases u.lengths with
  | nil => exact hr
  | cons n lengths =>
    rintro c ⟨⟩
    decide

theorem typeArguments_append (u : Spelling) (hr : ∀ c ∈ (Text.skipBlanks r).head?, c ≠ '(') :
    typeArguments (u.list ++ (u.brackets ++ r)) = (u.list, u.brackets ++ r) := by
  unfold list
  split
  · next a ha =>
    obtain ⟨hblankless, hclose⟩ := u.arguments_kept a ha
    have hread := typeArguments_list (Text.squeeze_of_blankless hblankless) hclose (u.brackets ++ r)
    rwa [← List.singleton_append (l := u.brackets ++ r), ← List.append_assoc] at hread
  · exact typeArguments_of_bare (u.head?_brackets hr)

theorem over_list (u : Spelling) (hr : Parting r) :
    ∀ c ∈ (u.list ++ (u.brackets ++ r)).head?, Text.isWord c = false ∧ c ≠ '.' := by
  unfold list brackets
  split
  · rintro c ⟨⟩
    decide
  · cases u.lengths with
    | nil => exact hr.ended
    | cons n lengths =>
      rintro c ⟨⟩
      decide

theorem startsWord_text (u : Spelling) (r : Text) : startsWord (u.text ++ r) = true := by
  rw [text, List.append_assoc]
  exact startsWord_append_right u.starts _

/-- What was kept of a word is read back as it stands. -/
theorem typeWord?_text (u : Spelling) (hr : Parting r) :
    typeWord? (u.text ++ r) = some (u.word, u.text, r) := by
  have hskip : Text.skipBlanks (u.text ++ r) = u.text ++ r :=
    skipBlanks_of_startsWord (u.startsWord_text r)
  have hword : dottedWord (u.text ++ r) = (u.word, u.list ++ (u.brackets ++ r)) := by
    rw [text, List.append_assoc, List.append_assoc]
    exact dottedWord_of_over u.dotted (u.over_list hr)
  simp only [typeWord?, hskip, u.startsWord_text r, if_true, hword,
    u.typeArguments_append fun c hc => (hr.bare c hc).1,
    u.arraySuffixes_brackets fun c hc => (hr.bare c hc).2]
  rw [text, List.append_assoc]

/-- A spelling closes one parenthesis at most. -/
theorem count_close_text (u : Spelling) : u.text.count ')' ≤ 1 := by
  have hword : u.word.count ')' = 0 := by
    rw [List.count_eq_zero]
    intro hm
    exact absurd (forall_mem_of_dotted u.dotted _ hm) (by decide)
  have hbrackets : u.brackets.count ')' = 0 := by
    rw [List.count_eq_zero, brackets, List.mem_flatMap]
    rintro ⟨n, hn, hm⟩
    have hmem : ')' ∈ n := by simpa using hm
    exact absurd (u.lengths_digits n hn _ hmem) (by decide)
  have hlist : u.list.count ')' ≤ 1 := by
    unfold list
    split
    · next a ha => simp [List.count_eq_zero.mpr (u.arguments_kept a ha).2]
    · simp
  rw [text, List.count_append, List.count_append, hword, hbrackets]
  omega

end Spelling

theorem append_dottedWord (t : Text) : (dottedWord t).1 ++ (dottedWord t).2 = t := by
  induction t with
  | nil => rfl
  | cons c t ih =>
    rw [dottedWord]
    split
    · rw [List.cons_append, ih]
    · rfl

theorem startsWord_dottedWord (t : Text) : startsWord (dottedWord t).1 = startsWord t := by
  cases t with
  | nil => rfl
  | cons c t =>
    rw [dottedWord]
    split
    · rfl
    · next hc =>
      rw [Bool.or_eq_true, not_or, Bool.not_eq_true] at hc
      exact hc.1.symm

theorem dottedWord_dottedWord (t : Text) : dottedWord (dottedWord t).1 = ((dottedWord t).1, []) := by
  induction t with
  | nil => rfl
  | cons c t ih =>
    rw [dottedWord]
    split
    · next hc =>
      rw [← startsWord_dottedWord t] at hc
      simp only [dottedWord, hc, if_true, ih]
    · rfl

theorem atWordEnd_dottedWord (t : Text) : Text.atWordEnd (dottedWord t).2 = true := by
  induction t with
  | nil => rfl
  | cons c t ih =>
    rw [dottedWord]
    split
    · exact ih
    · next hc =>
      rw [Bool.or_eq_true, not_or] at hc
      simpa [Text.atWordEnd] using hc.1

/-- Arguments are kept without blanks, and where there are none nothing is taken. -/
theorem typeArguments_kept (t : Text) :
    typeArguments t = ([], t) ∨ ∃ a r, typeArguments t = ('(' :: (a ++ [')']), r) ∧
      Text.Blankless a ∧ ')' ∉ a := by
  unfold typeArguments
  split
  · next inner _ =>
    split
    · next d r hr =>
      refine Or.inr ⟨Text.squeeze (inner.takeWhile (· != ')')), r, rfl, fun c hc => ?_, fun hm => ?_⟩
      · simpa using (List.mem_filter.mp hc).2
      · have hm := (List.mem_filter.mp hm).1
        simpa using List.mem_takeWhile_imp hm
    · exact Or.inl rfl
  · exact Or.inl rfl

theorem arraySuffixes_kept (t : Text) : ∃ lengths : List Text,
    (arraySuffixes t).1 = lengths.flatMap (fun n => '[' :: (n ++ [']'])) ∧
      (∀ n ∈ lengths, ∀ c ∈ n, Text.isDigit c = true) ∧
      (lengths = [] → (arraySuffixes t).2 = t) := by
  fun_induction arraySuffixes t with
  | case1 t h => exact ⟨[], rfl, by simp, fun _ => rfl⟩
  | case2 t suffix rest h _ found ih =>
    obtain ⟨lengths, hlengths, hdigits, -⟩ := ih
    obtain ⟨n, rfl, hn⟩ : ∃ n, suffix = '[' :: (n ++ [']']) ∧ ∀ c ∈ n, Text.isDigit c = true := by
      unfold arraySuffix? at h
      split at h
      · dsimp only at h
        split at h
        · next u _ _ _ _ =>
          refine ⟨(Text.skipBlanks u).takeWhile Text.isDigit, ?_, fun c hc => List.mem_takeWhile_imp hc⟩
          exact (Prod.mk.inj (Option.some.inj h)).1.symm
        · cases h
      · cases h
    refine ⟨n :: lengths, ?_, List.forall_mem_cons.mpr ⟨hn, hdigits⟩, by simp⟩
    simp [found, hlengths]

/-- A word that is read has a spelling, and ends where the letters of its name do unless something
else belongs to it. -/
theorem exists_spelling (h : typeWord? t = some (word, s, r)) :
    ∃ (u : Spelling) (behind : Text), u.word = word ∧ u.text = s ∧
      Text.skipBlanks t = word ++ behind ∧ Text.atWordEnd behind = true ∧
      (u.list ++ u.brackets = [] → r = behind) := by
  simp only [typeWord?] at h
  split at h
  · next hstarts =>
    have hword := dottedWord_dottedWord (Text.skipBlanks t)
    have hbehind := append_dottedWord (Text.skipBlanks t)
    have hend := atWordEnd_dottedWord (Text.skipBlanks t)
    rw [← startsWord_dottedWord] at hstarts
    generalize dottedWord (Text.skipBlanks t) = read at *
    obtain ⟨name, behind⟩ := read
    obtain ⟨lengths, hbrackets, hdigits, hnone⟩ := arraySuffixes_kept (typeArguments behind).2
    simp only [Option.some.injEq, Prod.mk.injEq] at h
    obtain ⟨rfl, rfl, rfl⟩ := h
    rcases typeArguments_kept behind with hlist | ⟨a, rest, hlist, hblankless, hclose⟩
    · rw [hlist] at hbrackets hnone ⊢
      refine ⟨⟨name, none, lengths, hstarts, hword, by simp, hdigits⟩, behind, rfl, ?_,
        hbehind.symm, hend, fun hempty => hnone ?_⟩
      · simp [Spelling.text, Spelling.list, Spelling.brackets, hbrackets]
      · cases lengths with
        | nil => rfl
        | cons => cases hempty
    · rw [hlist] at hbrackets ⊢
      refine ⟨⟨name, some a, lengths, hstarts, hword, ?_, hdigits⟩, behind, rfl, ?_,
        hbehind.symm, hend, fun hempty => ?_⟩
      · rintro _ ⟨⟩
        exact ⟨hblankless, hclose⟩
      · simp [Spelling.text, Spelling.list, Spelling.brackets, hbrackets]
      · cases hempty
  · cases h

theorem capital_not_mem (hk : IsKeyword k.toList) (hc : Text.isWord c = false) :
    Text.capital c ∉ k.toList := by
  intro hm
  rw [Text.isWord_of_capital (Text.isPlain_of_isUpper (hk.2 _ hm))] at hc
  cases hc

theorem isSome_wholeKeyword?_append (hk : IsKeyword k.toList) (hr : Text.atWordEnd r = true)
    (w : Text) : (Text.wholeKeyword? k (w ++ r)).isSome = (Text.wholeKeyword? k w).isSome := by
  cases r with
  | nil => rw [List.append_nil]
  | cons c r =>
    have hc : Text.isWord c = false := by simpa [Text.atWordEnd] using hr
    have hstop : Text.StopsAt c (Text.wholeKeyword? k) :=
      (Text.stopsAt_afterCapitals (capital_not_mem hk hc)).atWordEnd hc
    rw [hstop w r, Option.isSome_map]

theorem keyword?_append (hk : IsKeyword k.toList) (hr : Text.atWordEnd r = true) (w : Text) :
    Text.keyword? k (w ++ r) = (Text.keyword? k w).map (· ++ r) := by
  cases r with
  | nil => simp
  | cons c r =>
    have hc : Text.isWord c = false := by simpa [Text.atWordEnd] using hr
    exact Text.stopsAt_afterCapitals (capital_not_mem hk hc) w r

/-- A word is the first one of a character set where it is that keyword and blanks part it from the
second one. -/
theorem atCharacterSet_append (hstarts : startsWord w = true) (hw : Text.Blankless w)
    (hr : Text.atWordEnd r = true) : atCharacterSet (w ++ r) = true ↔
      Text.keyword? "CHARACTER" w = some [] ∧
        ∃ next, Text.gap? r = some next ∧ (Text.wholeKeyword? "SET" next).isSome = true := by
  have hskip : Text.skipBlanks (w ++ r) = w ++ r := by
    cases w with
    | nil => cases hstarts
    | cons c w => exact Text.skipBlanks_cons (hw c List.mem_cons_self)
  rw [atCharacterSet, hskip, Text.keywordGap?, keyword?_append (by decide) hr]
  cases hkeyword : Text.keyword? "CHARACTER" w with
  | none => simp
  | some left =>
    cases left with
    | nil => cases hgap : Text.gap? r <;> simp [hgap]
    | cons c left =>
      have hblank : Text.isBlank c = false :=
        hw c ((afterCapitals_suffix hkeyword).subset List.mem_cons_self)
      simp [Text.gap?, hblank]

/-- A letter that reads as a capital has it as its upper case; the sign for kelvin and the two
Turkish letters have capitals of their own. -/
theorem upperChar_of_capital (h : Text.capital c = d) (hd : d.isUpper = true) (hk : d ≠ 'K')
    (hi : d ≠ 'I') : Text.upperChar c = [d] := by
  have hlong : Text.upperChar '\u017F' = ['S'] := by decide
  subst h
  by_cases hc : c.toNat < 128
  · rw [Text.capital_of_ascii hc, Text.upperChar, if_pos (show c.toNat < 0x80 from hc)]
  · rcases Text.capital_of_not_ascii hc with hmem | heq
    · simp only [Text.capitalised, List.mem_cons, List.not_mem_nil, or_false] at hmem
      rcases hmem with rfl | rfl | rfl | rfl
      · exact hlong
      · exact absurd rfl hk
      · exact absurd rfl hi
      · exact absurd rfl hi
    · rw [heq] at hd
      exact absurd (Text.ascii_of_isPlain (Text.isPlain_of_isUpper hd)) hc

theorem upper_of_afterCapitals {capitals : Text} (h : Text.afterCapitals capitals w = some [])
    (hupper : ∀ d ∈ capitals, d.isUpper = true) (hk : 'K' ∉ capitals) (hi : 'I' ∉ capitals) :
    Text.upper w = capitals := by
  induction capitals generalizing w with
  | nil =>
    obtain rfl : w = [] := by simpa [Text.afterCapitals] using h
    rfl
  | cons d capitals ih =>
    obtain ⟨hd, hupper⟩ := List.forall_mem_cons.mp hupper
    obtain ⟨hkd, hk⟩ := not_or.mp (mt List.mem_cons.mpr hk)
    obtain ⟨hid, hi⟩ := not_or.mp (mt List.mem_cons.mpr hi)
    cases w with
    | nil => cases h
    | cons c w =>
      rw [Text.afterCapitals] at h
      split at h
      · next hc =>
        have hcons : Text.upper (c :: w) = Text.upperChar c ++ Text.upper w := List.flatMap_cons
        rw [hcons, upperChar_of_capital hc hd (Ne.symm hkd) (Ne.symm hid), ih h hupper hk hi,
          List.singleton_append]
      · cases h

/-- No word that ends a type is the second one of a character set. -/
theorem isSome_set_of_typeStop (hw : ∀ c ∈ w, Text.isWord c = true) (hstop : isTypeStop w = true) :
    (Text.wholeKeyword? "SET" w).isSome = false := by
  rw [← Bool.not_eq_true, Option.isSome_iff_exists]
  rintro ⟨left, hleft⟩
  obtain ⟨hkeyword, hend⟩ := Option.filter_eq_some_iff.mp hleft
  have hnil : left = [] := by
    cases left with
    | nil => rfl
    | cons c left =>
      have hc := hw c ((afterCapitals_suffix hkeyword).subset List.mem_cons_self)
      simp [Text.atWordEnd, hc] at hend
  subst hnil
  have hset : IsKeyword "SET".toList := by decide
  exact upper_ne_set_of_typeStop hstop
    (upper_of_afterCapitals hkeyword hset.2 (by decide) (by decide))

/-- A type is over here: nothing follows, or blanks and a word that ends it. -/
inductive TypeEnd : Text → Prop where
  | nothing : TypeEnd []
  | stop {blanks word rest : Text} (parted : blanks ≠ []) (blank : Text.allBlank blanks = true)
    (letters : ∀ c ∈ word, Text.isWord c = true) (stops : isTypeStop word = true)
    (ended : ∀ c ∈ rest.head?, Text.isWord c = false ∧ c ≠ '.') :
    TypeEnd (blanks ++ (word ++ rest))

theorem typeWords_of_cons (h : typeWords t = s :: ss) : ∃ word rest,
    typeWord? t = some (word, s, rest) ∧ isTypeStop word = false ∧ atCharacterSet t = false ∧
      typeWords rest = ss := by
  cases hread : typeWord? t with
  | none => rw [typeWords_of_none hread] at h; cases h
  | some found =>
    obtain ⟨word, spelling, rest⟩ := found
    rw [typeWords_of_some hread] at h
    split at h
    · cases h
    · next hgo =>
      obtain ⟨rfl, rfl⟩ := List.cons.inj h
      rw [Bool.or_eq_true, not_or, Bool.not_eq_true, Bool.not_eq_true] at hgo
      exact ⟨word, rest, rfl, hgo.1, hgo.2, rfl⟩

theorem startsWord_of_typeStop (hw : ∀ c ∈ w, Text.isWord c = true) (hstop : isTypeStop w = true)
    (r : Text) : startsWord (w ++ r) = true := by
  cases w with
  | nil => exact absurd hstop (by decide)
  | cons c w => exact hw c List.mem_cons_self

theorem TypeEnd.parting (h : TypeEnd r) : Parting r := by
  cases h with
  | nothing => exact parting_nil
  | stop hne hb hw hstop _ => exact parting_blanks hne hb (startsWord_of_typeStop hw hstop _)

theorem TypeEnd.typeWords_eq (h : TypeEnd r) : typeWords r = [] := by
  cases h with
  | nothing => exact typeWords_of_none rfl
  | @stop blanks word rest hne hb hw hstop hend =>
    have hstarts := startsWord_of_typeStop hw hstop rest
    have hread : ∃ spelling left,
        typeWord? (blanks ++ (word ++ rest)) = some (word, spelling, left) := by
      simp only [typeWord?, skipBlanks_blanks hb hstarts, hstarts, if_true,
        dottedWord_of_over (dottedWord_of_letters hw) hend]
      exact ⟨_, _, rfl⟩
    obtain ⟨spelling, left, hread⟩ := hread
    rw [typeWords_of_some hread, hstop]
    rfl

theorem gap?_blanks (hne : blanks ≠ []) (hb : Text.allBlank blanks = true)
    (hw : startsWord w = true) : Text.gap? (blanks ++ w) = some w := by
  obtain ⟨b, blanks, rfl⟩ := List.exists_cons_of_ne_nil hne
  obtain ⟨hblank, hb⟩ := List.forall_mem_cons.mp (List.all_eq_true.mp hb)
  rw [List.cons_append, Text.gap?, if_pos hblank, skipBlanks_blanks (List.all_eq_true.mpr hb) hw]

/-- Where no word goes on and one comes behind the blanks, there is a gap. -/
theorem gap?_of_skipBlanks (hr : Text.atWordEnd r = true) (h : Text.skipBlanks r = w)
    (hw : startsWord w = true) : Text.gap? r = some w := by
  cases r with
  | nil =>
    obtain rfl : [] = w := h
    cases hw
  | cons c r =>
    have hblank : Text.isBlank c = true := by
      by_contra hblank
      rw [Text.skipBlanks_cons (by simpa using hblank)] at h
      subst h
      have hword : Text.isWord c = true := hw
      simp [Text.atWordEnd, hword] at hr
    rw [Text.gap?, if_pos hblank, ← h, Text.skipBlanks, Text.skipBlanks,
      List.dropWhile_cons_of_pos hblank]

theorem Spelling.eq_nil_of_gap {u : Spelling} (h : (Text.gap? (u.list ++ (u.brackets ++ r))).isSome) :
    u.list ++ u.brackets = [] := by
  revert h
  unfold list brackets
  split
  · intro h
    cases h
  · cases u.lengths with
    | nil => exact fun _ => rfl
    | cons n lengths =>
      intro h
      cases h

/-- The words of a type that was read, with a blank before each. -/
theorem parting_spaced (hr : TypeEnd r) (t : Text) : Parting (spaced (typeWords t) ++ r) := by
  cases hwords : typeWords t with
  | nil => exact hr.parting
  | cons s ss =>
    obtain ⟨word, rest, hread, -⟩ := typeWords_of_cons hwords
    obtain ⟨u, -, -, rfl, -⟩ := exists_spelling hread
    have htext : spaced (u.text :: ss) ++ r = [' '] ++ (u.text ++ (spaced ss ++ r)) := by
      simp [spaced]
    rw [htext]
    exact parting_blanks (by simp) rfl (u.startsWord_text _)

/-- No two words of a type become a character set by being read once more. -/
theorem atCharacterSet_again (hread : typeWord? t = some (word, s, rest))
    (hset : atCharacterSet t = false) (hr : TypeEnd r) :
    atCharacterSet (s ++ (spaced (typeWords rest) ++ r)) = false := by
  obtain ⟨u, behind, rfl, rfl, hskip, hbehind, hrest⟩ := exists_spelling hread
  have hblankless := blankless_of_dotted u.dotted
  have hend := atWordEnd_of_ended (u.over_list (parting_spaced hr rest))
  have hkeyword : IsKeyword "SET".toList := by decide
  rw [← Bool.not_eq_true, Spelling.text, List.append_assoc, List.append_assoc,
    atCharacterSet_append u.starts hblankless hend]
  rintro ⟨hfirst, next, hgap, hnext⟩
  have hnil := Spelling.eq_nil_of_gap (Option.isSome_of_mem hgap)
  obtain rfl := hrest hnil
  rw [← List.append_assoc, hnil, List.nil_append] at hgap
  cases hwords : typeWords rest with
  | nil =>
    rw [hwords] at hgap
    cases hr with
    | nothing => cases hgap
    | @stop blanks v left hne hb hv hstop hleft =>
      have hstarts := startsWord_of_typeStop hv hstop left
      obtain rfl := Option.some.inj ((gap?_blanks hne hb hstarts).symm.trans hgap)
      rw [isSome_wholeKeyword?_append hkeyword (atWordEnd_of_ended hleft),
        isSome_set_of_typeStop hv hstop] at hnext
      cases hnext
  | cons s ss =>
    obtain ⟨second, left, hsecond, -, -, rfl⟩ := typeWords_of_cons hwords
    obtain ⟨v, behind, rfl, rfl, hskip', hbehind', -⟩ := exists_spelling hsecond
    have hgap' := gap?_of_skipBlanks hbehind hskip' (startsWord_append_right v.starts _)
    have hnext' : next = v.word ++ (v.list ++ (v.brackets ++ (spaced (typeWords left) ++ r))) := by
      have htext : spaced (v.text :: typeWords left) ++ r =
          [' '] ++ (v.text ++ (spaced (typeWords left) ++ r)) := by
        simp [spaced]
      rw [hwords, htext, gap?_blanks (by simp) rfl (v.startsWord_text _)] at hgap
      rw [← Option.some.inj hgap, Spelling.text, List.append_assoc, List.append_assoc]
    have hend' := atWordEnd_of_ended (v.over_list (parting_spaced hr left))
    rw [hnext', isSome_wholeKeyword?_append hkeyword hend',
      ← isSome_wholeKeyword?_append hkeyword hbehind'] at hnext
    have hagain : atCharacterSet (u.word ++ rest) = true :=
      (atCharacterSet_append u.starts hblankless hbehind).mpr ⟨hfirst, _, hgap', hnext⟩
    have hskipped : Text.skipBlanks (u.word ++ rest) = u.word ++ rest :=
      skipBlanks_of_startsWord (startsWord_append_right u.starts rest)
    rw [atCharacterSet, hskipped, ← hskip, ← atCharacterSet, hset] at hagain
    cases hagain

/-- Reading the words of a type once more gives the same words, whatever comes where it is over. -/
theorem typeWords_again (hr : TypeEnd r) (t : Text) :
    typeWords (spaced (typeWords t) ++ r) = typeWords t := by
  fun_induction typeWords t with
  | case1 t h => exact hr.typeWords_eq
  | case2 t word spelling rest h _ hstop => exact hr.typeWords_eq
  | case3 t word s rest h _ hgo ih =>
    rw [Bool.or_eq_true, not_or, Bool.not_eq_true, Bool.not_eq_true] at hgo
    have hset := atCharacterSet_again h hgo.2 hr
    obtain ⟨u, -, rfl, rfl, -⟩ := exists_spelling h
    have hread := u.typeWord?_text (parting_spaced hr rest)
    have htext : spaced (u.text :: typeWords rest) ++ r =
        ' ' :: (u.text ++ (spaced (typeWords rest) ++ r)) := by
      simp [spaced]
    rw [htext, typeWords_blank, typeWords_of_some hread, hgo.1, hset, ih]
    rfl

theorem columnType_again (hr : TypeEnd r) (h : columnType t ≠ [] ∨ r = []) :
    columnType (columnType t ++ r) = columnType t := by
  have hwords := typeWords_again hr t
  unfold columnType
  cases ht : typeWords t with
  | nil =>
    obtain rfl : r = [] := h.resolve_left (not_not.mpr (congrArg (Text.join [' ']) ht))
    exact congrArg (Text.join [' ']) (typeWords_of_none rfl)
  | cons s ss =>
    rw [← blank_join (by simp [ht]), List.cons_append, typeWords_blank, ht] at hwords
    rw [hwords]

/-- A type that was read is its own type, and stays it where blanks and a word that ends a type come
behind it. -/
theorem columnType_normal (d : Text) :
    columnType (columnType d) = columnType d ∧
    (columnType d ≠ [] → ∀ blanks word rest : Text, blanks ≠ [] → Text.allBlank blanks = true →
      (∀ c ∈ word, Text.isWord c = true) → isTypeStop word = true →
      (∀ c ∈ rest.head?, Text.isWord c = false ∧ c ≠ '.') →
      columnType (columnType d ++ (blanks ++ (word ++ rest))) = columnType d) := by
  constructor
  · have hagain := columnType_again .nothing (Or.inr rfl) (t := d)
    rwa [List.append_nil] at hagain
  · intro hne blanks word rest hparted hblank hletters hstops hended
    exact columnType_again (.stop hparted hblank hletters hstops hended) (Or.inl hne)

/-- A type of several words with blanks of all kinds, and a reference behind it. -/
theorem columnType_normal_array :
    columnType "character varying ( 2 0 ) [ ]\tpublic.mood[ 3 ] UNIQUE".toList =
      "character varying(20)[] public.mood[3]".toList ∧
    columnType ("character varying(20)[] public.mood[3]".toList ++
      ("\n ".toList ++ ("references".toList ++ "(id)".toList))) =
        "character varying(20)[] public.mood[3]".toList := by
  have htype : columnType "character varying ( 2 0 ) [ ]\tpublic.mood[ 3 ] UNIQUE".toList =
      "character varying(20)[] public.mood[3]".toList := by
    decide +kernel
  have hnormal := (columnType_normal
    "character varying ( 2 0 ) [ ]\tpublic.mood[ 3 ] UNIQUE".toList).2
  rw [htype] at hnormal
  have hletters : ∀ c ∈ "references".toList, Text.isWord c = true :=
    List.all_eq_true.mp (by decide)
  have hended : ∀ c ∈ "(id)".toList.head?, Text.isWord c = false ∧ c ≠ '.' := by
    rintro c ⟨⟩
    decide
  exact ⟨htype, hnormal (by decide +kernel) "\n ".toList "references".toList "(id)".toList
    (by decide) (by decide) hletters (by decide +kernel) hended⟩

end SchemaDiagram.Sql
