import SchemaDiagram.Proofs.Sql.Names
import SchemaDiagram.Sql.Scan

/-!
Scanning the body of a table. A scan that comes out of a text as it went in neither ends the body
nor cuts it there, so the body is cut at the commas between the definitions only.
-/
namespace SchemaDiagram

open Sql

namespace Sql

namespace Scan

variable {s s' s'' : Scan} {c : Char} {t u r piece : Text} {rest : List Text}

/-- The scan goes over the text from the first state to the second one without an end or a cut. -/
inductive Over : Scan → Text → Scan → Prop where
  | nil (s : Scan) : Over s [] s
  | cons {s s' : Scan} {c : Char} {t : Text} (hd : 0 ≤ (s.next c).depth)
      (hc : ¬ (c = ',' ∧ s.atTop = true)) (h : Over (s.next c) t s') : Over s (c :: t) s'

/-- The same scan within one more parenthesis. -/
def within (s : Scan) : Scan := { s with depth := s.depth + 1 }

theorem next_within (s : Scan) (c : Char) : s.within.next c = (s.next c).within := by
  have hdepth : ∀ quote : Option Char,
      (if quote.isNone then s.depth + 1 + slope c else s.depth + 1) =
        (if quote.isNone then s.depth + slope c else s.depth) + 1 := by
    intro quote
    cases quote with
    | none => simp only [Option.isNone_none, if_true]; omega
    | some => rfl
  exact congrArg (Scan.mk _ _) (hdepth _)

theorem Over.append (h : Over s t s') (h' : Over s' u s'') : Over s (t ++ u) s'' := by
  induction h with
  | nil => exact h'
  | cons hd hc _ ih => exact Over.cons hd hc (ih h')

theorem Over.single (hn : s.next c = s') (hd : 0 ≤ s'.depth) (hc : ¬ (c = ',' ∧ s.atTop = true)) :
    Over s [c] s' := by
  subst hn
  exact Over.cons hd hc (Over.nil _)

theorem over_join {sep : Text} {ps : List Text} (hs : Over s sep s) (hp : ∀ p ∈ ps, Over s p s) :
    Over s (Text.join sep ps) s := by
  fun_induction Text.join sep ps with
  | case1 => exact Over.nil s
  | case2 p => exact hp p (by simp)
  | case3 p ps _ ih =>
    obtain ⟨hp, hps⟩ := List.forall_mem_cons.mp hp
    exact (hp.append hs).append (ih hps)

/-- What the scan goes over belongs to the body. -/
theorem Over.body? (h : Over s t s') :
    s.within.body? (t ++ r) = (s'.within.body? r).map fun found => (t ++ found.1, found.2) := by
  induction h with
  | nil => simp
  | @cons s s' c t hd hc _ ih =>
    have hdepth : ¬ (s.next c).depth + 1 ≤ 0 := by omega
    rw [List.cons_append, Scan.body?, next_within, ih]
    simp only [within, hdepth, if_false, Option.map_map]
    rfl

theorem pieces_ne_nil (s : Scan) (t : Text) : s.pieces t ≠ [] := by
  fun_cases pieces s t with
  | case1 => simp
  | case2 => simp
  | case3 => exact Text.consFirst_ne_nil _ _

/-- What follows a text that stays in one piece is cut from where the scan stands after it. -/
theorem pieces_append (ht : s.pieces t = [t]) (hr : (s.after t).pieces r = piece :: rest) :
    s.pieces (t ++ r) = (t ++ piece) :: rest := by
  induction t generalizing s with
  | nil => exact hr
  | cons c t ih =>
    rw [pieces] at ht
    split at ht
    · simp at ht
    · next hcut =>
      have hnext : (s.next c).pieces t = [t] := by
        obtain ⟨next, others, hpieces⟩ := List.exists_cons_of_ne_nil (pieces_ne_nil (s.next c) t)
        rw [hpieces, Text.consFirst] at ht
        simp_all
      rw [List.cons_append, pieces, if_neg hcut, ih hnext hr]
      rfl

/-- A text that is one piece for a scan at the top, which stands at the top again after it. -/
structure StaysWhole (p : Text) : Prop where
  pieces_eq : pieces {} p = [p]
  after_eq : ∃ escaped, after {} p = { escaped }

theorem Over.pieces_eq (h : Over s t s') : s.pieces t = [t] := by
  induction h with
  | nil => rfl
  | @cons s s' c t hd hc _ ih =>
    have hcut : ¬ (decide (c = ',') && s.atTop) = true := by simpa using hc
    rw [pieces, if_neg hcut, ih]
    rfl

theorem Over.after_eq (h : Over s t s') : s.after t = s' := by
  induction h with
  | nil => rfl
  | cons hd hc _ ih => exact ih

theorem Over.staysWhole (h : Over {} t {}) : StaysWhole t := ⟨h.pieces_eq, false, h.after_eq⟩

/-- A character that neither opens nor closes anything. -/
def isStill (c : Char) : Bool := !isQuote c && c != '\\' && slope c == 0

theorem isStill_of_isPlain (h : Text.isPlain c = true) : isStill c = true :=
  Text.isPlain_induction h (by decide)

theorem isStill_of_isWord (h : Text.isWord c = true) : isStill c = true := by
  have hne (e : Char) (he : Text.isWord e = false) : c ≠ e := by
    rintro rfl
    simp [h] at he
  simp [isStill, isQuote, slope, hne '\'' (by decide), hne '"' (by decide),
    hne '\x60' (by decide), hne '\\' (by decide), hne '(' (by decide), hne ')' (by decide)]

theorem next_of_isStill (hs : s.escaped = false) (hc : isStill c = true) : s.next c = s := by
  obtain ⟨⟨hq, hb⟩, hz⟩ : (isQuote c = false ∧ c ≠ '\\') ∧ slope c = 0 := by
    simpa [isStill] using hc
  obtain ⟨quote, escaped, depth⟩ := s
  obtain rfl : escaped = false := hs
  simp [next, hq, hb, hz]

theorem over_still (hs : s.escaped = false) (hd : 0 ≤ s.depth) (ht : ∀ c ∈ t, isStill c = true)
    (hcomma : ',' ∈ t → s.atTop = false) : Over s t s := by
  induction t with
  | nil => exact Over.nil s
  | cons c t ih =>
    obtain ⟨hc, ht⟩ := List.forall_mem_cons.mp ht
    have hnext := next_of_isStill hs hc
    refine Over.cons (by rwa [hnext]) ?_ ?_
    · rintro ⟨rfl, htop⟩
      simp [hcomma] at htop
    · rw [hnext]
      exact ih ht fun hm => hcomma (List.mem_cons_of_mem c hm)

theorem over_mark (hs : s.escaped = false) (hd : 0 ≤ s.depth) (hc : isStill c = true)
    (hne : c ≠ ',') : Over s [c] s :=
  over_still hs hd (List.forall_mem_singleton.mpr hc)
    fun hm => absurd (List.mem_singleton.mp hm).symm hne

theorem over_plain {w : Text} (hs : s.escaped = false) (hd : 0 ≤ s.depth) (hw : Text.Plain w) :
    Over s w s :=
  over_still hs hd (fun c hc => isStill_of_isPlain (hw c hc))
    fun hm => absurd hm (hw.not_mem (by decide))

/-- The scan outside quotes. -/
def level (depth : Int) : Scan := { depth }

variable {d : Int} {q : Char} {w : Text} {words : List Text} {scope : List Text}

theorem next_open (hq : isQuote q = true) (d : Int) :
    (level d).next q = ⟨some q, false, d⟩ := by
  obtain (rfl | rfl) | rfl : (q = '\'' ∨ q = '"') ∨ q = '\x60' := by simpa [isQuote] using hq
  all_goals rfl

theorem next_close (hq : isQuote q = true) (d : Int) :
    next ⟨some q, false, d⟩ q = level d := by
  obtain (rfl | rfl) | rfl : (q = '\'' ∨ q = '"') ∨ q = '\x60' := by simpa [isQuote] using hq
  all_goals simp [next, level, isQuote, toggle, slope]

theorem over_open (hq : isQuote q = true) (hd : 0 ≤ d) :
    Over (level d) [q] ⟨some q, false, d⟩ := by
  refine Over.single (next_open hq d) hd ?_
  rintro ⟨rfl, -⟩
  cases hq

theorem over_close (hq : isQuote q = true) (hd : 0 ≤ d) :
    Over ⟨some q, false, d⟩ [q] (level d) := by
  refine Over.single (next_close hq d) hd ?_
  rintro ⟨-, htop⟩
  cases htop

theorem over_quote (hq : isQuote q = true) (hd : 0 ≤ d) (hw : ∀ c ∈ w, isStill c = true) :
    Over (level d) (q :: w ++ [q]) (level d) := by
  have hinner : Over ⟨some q, false, d⟩ w ⟨some q, false, d⟩ := over_still rfl hd hw fun _ => rfl
  exact (over_open hq hd).append (hinner.append (over_close hq hd))

/-- Brackets are no quotes for a scan, but a plain word needs none. -/
theorem over_around (q : Quotes) (hd : 0 ≤ d) (hw : Text.Plain w) :
    Over (level d) (q.around w) (level d) := by
  cases q with
  | backticks | doubleQuotes => exact over_quote rfl hd fun c hc => isStill_of_isPlain (hw c hc)
  | brackets =>
    have hopen : Over (level d) ['['] (level d) := over_mark rfl hd rfl (by decide)
    have hclose : Over (level d) [']'] (level d) := over_mark rfl hd rfl (by decide)
    exact hopen.append ((over_plain rfl hd hw).append hclose)

theorem over_tick (hd : 0 ≤ d) (hw : Text.Plain w) : Over (level d) (tick w) (level d) :=
  over_around .backticks hd hw

theorem over_qualified (hd : 0 ≤ d) (n : QualifiedName) :
    Over (level d) n.print (level d) := by
  obtain ⟨qualifiers, name⟩ := n
  induction qualifiers with
  | nil => exact over_around name.quotes hd name.plain
  | cons q qualifiers ih =>
    have hdot : Over (level d) ['.'] (level d) := over_mark rfl hd rfl (by decide)
    rw [QualifiedName.print_cons]
    exact (over_around q.quotes hd q.plain).append (hdot.append ih)

theorem over_chain (hd : 0 ≤ d) (hs : ∀ q ∈ scope, IsName q) (hw : IsName w) :
    Over (level d) (chain scope w) (level d) := by
  obtain ⟨n, hprint, -⟩ := exists_chain hs hw
  rw [← hprint]
  exact over_qualified hd n

theorem over_spaced (hd : 0 ≤ d) (hw : ∀ w ∈ words, Over (level d) w (level d)) :
    Over (level d) (spaced words) (level d) := by
  induction words with
  | nil => exact Over.nil _
  | cons w words ih =>
    obtain ⟨hw, hwords⟩ := List.forall_mem_cons.mp hw
    have hblank : Over (level d) [' '] (level d) := over_mark rfl hd rfl (by decide)
    exact (hblank.append hw).append (ih hwords)

/-- Parentheses that are closed again leave the scan where it was. -/
theorem over_parentheses (hd : 0 ≤ d) (h : Over (level (d + 1)) t (level (d + 1))) :
    Over (level d) ('(' :: t ++ [')']) (level d) := by
  have hopen : (level d).next '(' = level (d + 1) := rfl
  have hclose : (level (d + 1)).next ')' = level d := by
    exact congrArg level (Int.add_neg_cancel_right d 1)
  have hstart : Over (level d) ['('] (level (d + 1)) :=
    Over.single hopen (Int.add_nonneg hd (by decide)) (by simp)
  have hend : Over (level (d + 1)) [')'] (level d) := Over.single hclose hd (by simp)
  exact hstart.append (h.append hend)

variable {ps : List Text}

theorem body?_gap (t : Text) : body? (level 1) (',' :: ' ' :: t) =
    (body? (level 1) t).map fun found => (',' :: ' ' :: found.1, found.2) := by
  have hcomma : (level 1).next ',' = level 1 := rfl
  have hblank : (level 1).next ' ' = level 1 := rfl
  rw [body?, hcomma, if_neg (by decide), body?, hblank, if_neg (by decide), Option.map_map]
  rfl

/-- The body of definitions with commas between them ends at the parenthesis after the last one. -/
theorem body?_join (h : ∀ p ∈ ps, Over (level 0) p (level 0)) :
    body? (level 1) (Text.join [',', ' '] ps ++ ')' :: r) = some (Text.join [',', ' '] ps, r) := by
  have hclose : body? (level 1) (')' :: r) = some ([], r) := rfl
  fun_induction Text.join [',', ' '] ps with
  | case1 => exact hclose
  | case2 p =>
    have hp := (h p (by simp)).body? (r := ')' :: r)
    rw [show (level 0).within = level 1 from rfl, hclose] at hp
    rw [hp, Option.map_some, List.append_nil]
  | case3 p ps _ ih =>
    obtain ⟨hp, hps⟩ := List.forall_mem_cons.mp h
    have hp := hp.body? (r := [',', ' '] ++ Text.join [',', ' '] ps ++ ')' :: r)
    rw [show (level 0).within = level 1 from rfl, List.append_assoc, List.cons_append,
      List.singleton_append, body?_gap, ih hps] at hp
    simpa [List.append_assoc] using hp

/-- Texts that stay whole are cut at the commas between them; all but the first one keep the
blank. -/
theorem pieces_join {p : Text} (h : ∀ q ∈ p :: ps, StaysWhole q) :
    pieces {} (Text.join [',', ' '] (p :: ps)) = p :: ps.map (' ' :: ·) := by
  induction ps generalizing p with
  | nil => exact (h p List.mem_cons_self).pieces_eq
  | cons q ps ih =>
    obtain ⟨hp, hq⟩ := List.forall_mem_cons.mp h
    obtain ⟨escaped, hafter⟩ := hp.after_eq
    have hgap : (after {} p).pieces ([',', ' '] ++ Text.join [',', ' '] (q :: ps)) =
        [] :: (' ' :: q) :: ps.map (' ' :: ·) := by
      have hcomma : ({ escaped } : Scan).next ',' = {} := by cases escaped <;> rfl
      have htop : (decide (',' = ',') && ({ escaped } : Scan).atTop) = true := rfl
      have hblank : ({} : Scan).next ' ' = {} := rfl
      rw [hafter, List.cons_append, List.singleton_append, pieces, if_pos htop, hcomma, pieces,
        if_neg (by decide), hblank, ih hq]
      rfl
    have hpieces := pieces_append hp.pieces_eq hgap
    rw [List.append_nil, ← List.append_assoc] at hpieces
    exact hpieces

end Scan

/-- The text has a last character and that is no blank. -/
def Closes (t : Text) : Prop := ∃ t' c, t = t' ++ [c] ∧ Text.isBlank c = false

instance (t : Text) : Decidable (Closes t) :=
  decidable_of_iff (t.getLast?.any (!Text.isBlank ·) = true) <| by
    simp only [Option.any_eq_true, List.getLast?_eq_some_iff, Bool.not_eq_true', Closes]
    constructor
    · rintro ⟨c, ⟨t', ht⟩, hc⟩
      exact ⟨t', c, ht, hc⟩
    · rintro ⟨t', c, ht, hc⟩
      exact ⟨c, ⟨t', ht⟩, hc⟩

/-- The text starts and ends with two characters that are no blanks. -/
def IsTrim (t : Text) : Prop := ∃ c t', t = c :: t' ∧ Text.isBlank c = false ∧ Closes t'

variable {p t u w sep : Text} {ps words : List Text}

theorem IsTrim.trim (h : IsTrim t) : Text.trim t = t := by
  obtain ⟨c, _, rfl, hc, t', d, rfl, hd⟩ := h
  exact Text.trim_of_ends hc hd

theorem IsTrim.ne_nil (h : IsTrim t) : t ≠ [] := by
  obtain ⟨c, t', rfl, -⟩ := h
  exact List.cons_ne_nil c t'

theorem partsOf_eq_map (h : ∀ p ∈ ps, Text.allBlank p = false) : partsOf ps = ps.map Text.trim := by
  fun_induction partsOf ps with
  | case1 => rfl
  | case2 p hb => simp_all
  | case3 p hb => rfl
  | case4 p ps hne ih =>
    rw [ih fun q hq => h q (List.mem_cons_of_mem p hq), List.map_cons]

/-- Trimmed texts that stay whole are the parts of what they make with commas between them. -/
theorem parts_join_of_staysWhole (h : ∀ p ∈ ps, Scan.StaysWhole p ∧ p ≠ [] ∧ Text.trim p = p) :
    parts (Text.join [',', ' '] ps) = ps := by
  cases ps with
  | nil => rfl
  | cons p ps =>
    have hpieces := Scan.pieces_join fun q hq => (h q hq).1
    have hfilled : ∀ q ∈ p :: ps, Text.allBlank q = false := by
      rintro q hq
      obtain ⟨-, hne, htrim⟩ := h q hq
      rw [Bool.eq_false_iff, ne_eq, ← Text.trim_eq_nil_iff, htrim]
      exact hne
    have hblank : ∀ q ∈ p :: ps.map (' ' :: ·), Text.allBlank q = false := by
      obtain ⟨hp, hps⟩ := List.forall_mem_cons.mp hfilled
      refine List.forall_mem_cons.mpr ⟨hp, ?_⟩
      rintro _ hq
      obtain ⟨q, hm, rfl⟩ := List.mem_map.mp hq
      exact hps q hm
    obtain ⟨⟨-, -, hp⟩, hps⟩ := List.forall_mem_cons.mp h
    have htrim : (ps.map (' ' :: ·)).map Text.trim = ps := by
      have hid : ∀ q ∈ ps, (Text.trim ∘ (' ' :: ·)) q = id q := fun q hq =>
        (Text.trim_blank rfl).trans (hps q hq).2.2
      rw [List.map_map, List.map_congr_left hid, List.map_id]
    rw [parts, hpieces, partsOf_eq_map hblank, List.map_cons, hp, htrim]

/-- Definitions with commas between them are the parts of the body that they make. -/
theorem parts_join (h : ∀ p ∈ ps, Scan.Over (Scan.level 0) p (Scan.level 0) ∧ IsTrim p) :
    parts (Text.join [',', ' '] ps) = ps :=
  parts_join_of_staysWhole fun p hp => ⟨(h p hp).1.staysWhole, (h p hp).2.ne_nil, (h p hp).2.trim⟩

theorem Closes.after (hu : Closes u) (t : Text) : Closes (t ++ u) := by
  obtain ⟨u', c, rfl, hc⟩ := hu
  exact ⟨t ++ u', c, (List.append_assoc _ _ _).symm, hc⟩

theorem Closes.trimEnd {blanks : Text} (h : Closes t) (hb : Text.allBlank blanks = true) :
    Text.trimEnd (t ++ blanks) = t := by
  obtain ⟨t', c, rfl, hc⟩ := h
  rw [List.append_assoc, List.singleton_append, Text.trimEnd_append hb hc]

theorem Closes.append (ht : Closes t) (hu : u = [] ∨ Closes u) : Closes (t ++ u) := by
  rcases hu with rfl | hu
  · rwa [List.append_nil]
  · exact hu.after t

theorem closes_plain (hne : w ≠ []) (hw : Text.Plain w) : Closes w :=
  ⟨w.dropLast, w.getLast hne, (List.dropLast_concat_getLast hne).symm,
    Text.isBlank_of_isPlain (hw _ (List.getLast_mem hne))⟩

theorem closes_spaced (hw : ∀ w ∈ words, Closes w) : spaced words = [] ∨ Closes (spaced words) := by
  induction words with
  | nil => exact Or.inl rfl
  | cons w words ih =>
    obtain ⟨⟨w', c, rfl, hc⟩, hwords⟩ := List.forall_mem_cons.mp hw
    have hfirst : Closes (' ' :: w' ++ [c]) := ⟨' ' :: w', c, rfl, hc⟩
    exact Or.inr (hfirst.append (ih hwords))

theorem closes_join (hne : ps ≠ []) (hp : ∀ p ∈ ps, Closes p) :
    Closes (Text.join sep ps) := by
  fun_induction Text.join sep ps with
  | case1 => exact (hne rfl).elim
  | case2 p => exact hp p (by simp)
  | case3 p ps hps ih => exact (ih hps (List.forall_mem_cons.mp hp).2).after _

theorem Closes.isTrim {c : Char} (h : Closes (c :: t)) (hc : Text.isBlank c = false)
    (hne : t ≠ []) : IsTrim (c :: t) := by
  obtain ⟨u, d, hu, hd⟩ := h
  cases u with
  | nil =>
    cases hu
    exact (hne rfl).elim
  | cons e u =>
    cases hu
    exact ⟨c, u ++ [d], rfl, hc, u, d, rfl, hd⟩

theorem TypeWord.Valid.over_spelling {v : TypeWord} {d : Int} (hd : 0 ≤ d) (h : v.Valid) :
    Scan.Over (Scan.level d) v.spelling (Scan.level d) := by
  refine Scan.Over.append (Scan.over_plain rfl hd h.plain) ?_
  unfold arguments
  split
  · exact Scan.Over.nil _
  · next numbers hn =>
    apply Scan.over_parentheses hd
    apply Scan.over_still rfl (Int.add_nonneg hd (by decide))
    · intro c hc
      rcases h.mem_numbers hn c hc with hc | rfl | rfl
      · exact Scan.isStill_of_isPlain (Text.isPlain_of_isDigit hc)
      · decide
      · decide
    · intro _
      have hne : d + 1 ≠ 0 := by omega
      simp [Scan.atTop, Scan.level, hne]

theorem TypeWord.Valid.closes_spelling {v : TypeWord} (h : v.Valid) : Closes v.spelling := by
  refine (closes_plain h.nonempty h.plain).append ?_
  unfold arguments
  split
  · exact Or.inl rfl
  · next numbers _ => exact Or.inr ⟨'(' :: Text.join [','] numbers, ')', rfl, by decide⟩

end Sql

namespace Column.Printable

variable {c : Column} {scope : List Text}

/-- A scan of the body comes out of a definition as it went in. -/
theorem over_print (hc : c.Printable) (hs : ∀ q ∈ scope, IsName q) {d : Int} (hd : 0 ≤ d) :
    Scan.Over (Scan.level d) (c.print scope) (Scan.level d) := by
  obtain ⟨words, hv, hspaced⟩ := hc.type.exists_spaced
  have hname := Scan.over_tick hd hc.name.plain
  have htype : Scan.Over (Scan.level d) (' ' :: c.type) (Scan.level d) := by
    rw [hspaced]
    apply Scan.over_spaced hd
    intro w hw
    obtain ⟨v, hm, rfl⟩ := List.mem_map.mp hw
    exact (hv v hm).over_spelling hd
  have hconstraints := Scan.over_spaced hd
    fun w hw => Scan.over_plain rfl hd (hc.plain_constraints w hw)
  have hpointer : Scan.Over (Scan.level d) (c.pointer scope) (Scan.level d) := by
    unfold pointer
    split
    · next r hr =>
      obtain ⟨htable, hcolumn⟩ := hc.reference r hr
      have hwords : ∀ w ∈ ["REFERENCES".toList, chain scope r.table],
          Scan.Over (Scan.level d) w (Scan.level d) := by
        refine List.forall_mem_cons.mpr ⟨Scan.over_plain rfl hd (by decide), ?_⟩
        exact List.forall_mem_singleton.mpr (Scan.over_chain hd hs htable)
      have hblank : Scan.Over (Scan.level d) [' '] (Scan.level d) :=
        Scan.over_mark rfl hd rfl (by decide)
      have hlist := Scan.over_parentheses hd
        (Scan.over_tick (Int.add_nonneg hd (by decide)) hcolumn.plain)
      have hprint : r.print scope = spaced ["REFERENCES".toList, chain scope r.table] ++
          ([' '] ++ ('(' :: tick r.column ++ [')'])) := by
        simp only [Reference.print, spaced, List.flatMap_cons, List.flatMap_nil, List.append_nil,
          List.append_assoc, List.cons_append, List.nil_append]
      rw [hprint]
      exact (Scan.over_spaced hd hwords).append (hblank.append hlist)
    · exact Scan.Over.nil _
  exact (hname.append htype).append (hconstraints.append hpointer)

theorem isTrim_print (hc : c.Printable) : IsTrim (c.print scope) := by
  obtain ⟨words, hv, hspaced⟩ := hc.type.exists_spaced
  have hname : Closes (c.name ++ ['\x60']) := ⟨c.name, '\x60', rfl, by decide⟩
  have htype : spaced (words.map TypeWord.spelling) = [] ∨
      Closes (spaced (words.map TypeWord.spelling)) := by
    apply closes_spaced
    intro w hw
    obtain ⟨v, hm, rfl⟩ := List.mem_map.mp hw
    exact (hv v hm).closes_spelling
  have hconstraints := closes_spaced fun w hw =>
    closes_plain (hc.mem_constraints w hw).1 (hc.mem_constraints w hw).2
  have hpointer : c.pointer scope = [] ∨ Closes (c.pointer scope) := by
    unfold pointer
    split
    · next r _ => exact Or.inr ⟨_, ')', rfl, by decide⟩
    · exact Or.inl rfl
  refine ⟨'\x60', c.name ++ ['\x60'] ++ ' ' :: c.type ++ c.clauses scope, ?_, by decide, ?_⟩
  · simp [print, tick]
  · rw [hspaced, clauses, ← List.append_assoc]
    exact ((hname.append htype).append hconstraints).append hpointer

end Column.Printable
end SchemaDiagram
