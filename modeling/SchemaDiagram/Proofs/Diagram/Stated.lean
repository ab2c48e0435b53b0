import SchemaDiagram.Proofs.Diagram.Contents
import SchemaDiagram.Proofs.Text.Lines
import SchemaDiagram.Proofs.Text.Marks

/-!
The grammar of stated relations. A text states the relations that its lines state, each line on its
own: relations that are printed are read back, whatever other lines stand between them.
-/
namespace SchemaDiagram

variable {t r w gap line : Text} {p : Char → Bool} {a : Relation} {as : List Relation}

namespace Text

/-- A word that a reader takes: one or more letters, digits and low lines. -/
def Whole (w : Text) : Prop := w ≠ [] ∧ w.InWord

/-- A text of blanks only, or none at all. -/
def Blanks (t : Text) : Prop := ∀ c ∈ t, isBlank c = true

/-- A text without line ends. -/
def Unbroken (t : Text) : Prop := ∀ c ∈ t, isLineEnd c = false

instance (w : Text) : Decidable w.Whole := inferInstanceAs (Decidable (_ ∧ _))

instance (t : Text) : Decidable t.Blanks := List.decidableBAll _ t

instance (t : Text) : Decidable t.Unbroken := List.decidableBAll _ t

/-- Nothing of a text is left to take: its first character fails the test. -/
def Stops (p : Char → Bool) (t : Text) : Prop := ∀ c ∈ t.head?, p c = false

theorem stops_dropWhile (t : Text) : Stops p (t.dropWhile p) := by
  intro c hc
  have h := List.head?_dropWhile_not p t
  rw [Option.mem_def.mp hc] at h
  exact h

theorem takeWhile_of_stops (hw : ∀ c ∈ w, p c = true) (hr : Stops p r) :
    (w ++ r).takeWhile p = w := by
  rw [List.takeWhile_append_of_pos hw]
  cases r with
  | nil => simp
  | cons c r => simp [hr c rfl]

theorem dropWhile_of_stops (hw : ∀ c ∈ w, p c = true) (hr : Stops p r) :
    (w ++ r).dropWhile p = r := by
  rw [List.dropWhile_append_of_pos hw]
  cases r with
  | nil => rfl
  | cons c r => simp [hr c rfl]

theorem skipBlanks_eq_iff :
    skipBlanks t = r ↔ ∃ gap, t = gap ++ r ∧ gap.Blanks ∧ Stops isBlank r := by
  constructor
  · rintro rfl
    have hblank := List.all_eq_true.mp (List.all_takeWhile (p := isBlank) (l := t))
    exact ⟨_, List.takeWhile_append_dropWhile.symm, hblank, stops_dropWhile t⟩
  · rintro ⟨gap, rfl, hgap, hr⟩
    exact dropWhile_of_stops hgap hr

theorem gap?_eq_some_iff :
    gap? t = some r ↔ ∃ gap, t = gap ++ r ∧ gap ≠ [] ∧ gap.Blanks ∧ Stops isBlank r := by
  constructor
  · intro h
    unfold gap? at h
    split at h
    · cases h
    · next c t =>
      split at h
      · next hc =>
        obtain ⟨gap, rfl, hgap, hr⟩ := skipBlanks_eq_iff.mp (Option.some.inj h)
        exact ⟨c :: gap, rfl, by simp, List.forall_mem_cons.mpr ⟨hc, hgap⟩, hr⟩
      · cases h
  · rintro ⟨gap, rfl, hne, hgap, hr⟩
    obtain ⟨c, gap, rfl⟩ := List.exists_cons_of_ne_nil hne
    obtain ⟨hc, hgap⟩ := List.forall_mem_cons.mp hgap
    rw [List.cons_append, gap?, if_pos hc, skipBlanks_eq_iff.mpr ⟨gap, rfl, hgap, hr⟩]

theorem word?_eq_some_iff :
    word? t = some (w, r) ↔ t = w ++ r ∧ w.Whole ∧ Stops isWord r := by
  constructor
  · intro h
    have hw := word?_inWord h
    unfold word? at h
    split at h
    · cases h
    · obtain ⟨rfl, rfl⟩ := Prod.mk.inj (Option.some.inj h)
      exact ⟨List.takeWhile_append_dropWhile.symm, hw, stops_dropWhile t⟩
  · rintro ⟨rfl, ⟨hne, hw⟩, hr⟩
    obtain ⟨c, w, rfl⟩ := List.exists_cons_of_ne_nil hne
    rw [word?, word, takeWhile_of_stops hw hr, dropWhile_of_stops hw hr]

theorem Whole.stops_isBlank (hw : w.Whole) (r : Text) : Stops isBlank (w ++ r) := by
  obtain ⟨hne, hw⟩ := hw
  obtain ⟨c, w, rfl⟩ := List.exists_cons_of_ne_nil hne
  rintro d ⟨⟩
  have hc := hw c (by simp)
  cases hb : isBlank c with
  | false => rfl
  | true => exact absurd hc (by simp [isWord_of_isBlank hb])

theorem Blanks.stops_isWord (hgap : gap.Blanks) (hr : Stops isWord r) :
    Stops isWord (gap ++ r) := by
  cases gap with
  | nil => exact hr
  | cons c gap =>
    rintro d ⟨⟩
    exact isWord_of_isBlank (hgap c (by simp))

end Text

namespace Relation

open Text (Whole Blanks Unbroken Stops)

/-- The names in a relation are words. -/
structure Words (a : Relation) : Prop where
  name : a.name.Whole
  child : a.child.Whole
  childColumn : a.childColumn.Whole
  parent : a.parent.Whole
  parentColumn : a.parentColumn.Whole

/-- A line that states a relation, with the blanks that it has and the blanks that it may have. -/
inductive States : Text → Relation → Prop
  | mk {a : Relation} {afterRef afterColon beforeSign afterSign beforeSlashes rest : Text}
      (words : a.Words) (ref : afterRef ≠ [] ∧ afterRef.Blanks)
      (colon : afterColon ≠ [] ∧ afterColon.Blanks) (sign : beforeSign.Blanks ∧ afterSign.Blanks)
      (slashes : beforeSlashes.Blanks) (nonempty : rest ≠ [])
      (cardinality : a.cardinality = rest.trim) :
      States
        ("Ref".toList ++ (afterRef ++ (a.name ++ ([':'] ++ (afterColon ++
          (a.child ++ (['.'] ++ (a.childColumn ++ (beforeSign ++ (['>'] ++ (afterSign ++
            (a.parent ++ (['.'] ++ (a.parentColumn ++ (beforeSlashes ++
              ("//".toList ++ rest)))))))))))))))) a

theorem dotted?_eq_some_iff {table column : Text} :
    dotted? t = some (table, column, r) ↔
      t = table ++ (['.'] ++ (column ++ r)) ∧ table.Whole ∧ column.Whole ∧ Stops Text.isWord r := by
  constructor
  · intro h
    obtain ⟨⟨_, _⟩, htable, h⟩ := Option.bind_eq_some_iff.mp h
    obtain ⟨_, hdot, h⟩ := Option.bind_eq_some_iff.mp h
    obtain ⟨⟨_, _⟩, hcolumn, h⟩ := Option.bind_eq_some_iff.mp h
    cases h
    obtain ⟨rfl, htableWord, -⟩ := Text.word?_eq_some_iff.mp htable
    obtain rfl := Text.after?_eq_some_iff.mp hdot
    obtain ⟨rfl, hcolumnWord, hr⟩ := Text.word?_eq_some_iff.mp hcolumn
    exact ⟨rfl, htableWord, hcolumnWord, hr⟩
  · rintro ⟨rfl, htable, hcolumn, hr⟩
    have hdot : Stops Text.isWord (['.'] ++ (column ++ r)) := by
      rintro c ⟨⟩
      decide
    refine Option.bind_eq_some_iff.mpr ⟨_, Text.word?_eq_some_iff.mpr ⟨rfl, htable, hdot⟩, ?_⟩
    refine Option.bind_eq_some_iff.mpr ⟨_, Text.after?_eq_some_iff.mpr rfl, ?_⟩
    exact Option.bind_eq_some_iff.mpr ⟨_, Text.word?_eq_some_iff.mpr ⟨rfl, hcolumn, hr⟩, rfl⟩

/-- The reader takes a relation off a line only where the line states it. -/
theorem states_of_ofLine? (h : ofLine? line = some a) : States line a := by
  obtain ⟨_, href, h⟩ := Option.bind_eq_some_iff.mp h
  obtain ⟨_, hgap, h⟩ := Option.bind_eq_some_iff.mp h
  obtain ⟨⟨name, _⟩, hname, h⟩ := Option.bind_eq_some_iff.mp h
  obtain ⟨_, hcolon, h⟩ := Option.bind_eq_some_iff.mp h
  obtain ⟨_, hgap', h⟩ := Option.bind_eq_some_iff.mp h
  obtain ⟨⟨child, childColumn, _⟩, hchild, h⟩ := Option.bind_eq_some_iff.mp h
  obtain ⟨_, hsign, h⟩ := Option.bind_eq_some_iff.mp h
  obtain ⟨⟨parent, parentColumn, _⟩, hparent, h⟩ := Option.bind_eq_some_iff.mp h
  obtain ⟨rest, hslashes, h⟩ := Option.bind_eq_some_iff.mp h
  split at h
  · cases h
  next hrest =>
  cases h
  obtain rfl := Text.after?_eq_some_iff.mp href
  obtain ⟨afterRef, rfl, hafterRef, hblank, -⟩ := Text.gap?_eq_some_iff.mp hgap
  obtain ⟨rfl, hnameWord, -⟩ := Text.word?_eq_some_iff.mp hname
  obtain rfl := Text.after?_eq_some_iff.mp hcolon
  obtain ⟨afterColon, rfl, hafterColon, hblank', -⟩ := Text.gap?_eq_some_iff.mp hgap'
  obtain ⟨rfl, hchildWord, hchildColumn, -⟩ := dotted?_eq_some_iff.mp hchild
  obtain ⟨beforeSign, rfl, hbefore, -⟩ :=
    Text.skipBlanks_eq_iff.mp (Text.after?_eq_some_iff.mp hsign)
  obtain ⟨hparent, hparentWord, hparentColumn, -⟩ := dotted?_eq_some_iff.mp hparent
  obtain ⟨afterSign, rfl, hafter, -⟩ := Text.skipBlanks_eq_iff.mp hparent
  obtain ⟨beforeSlashes, rfl, hbefore', -⟩ :=
    Text.skipBlanks_eq_iff.mp (Text.after?_eq_some_iff.mp hslashes)
  have hwords : Words
      { name, child, childColumn, parent, parentColumn, cardinality := rest.trim } :=
    ⟨hnameWord, hchildWord, hchildColumn, hparentWord, hparentColumn⟩
  exact .mk hwords ⟨hafterRef, hblank⟩ ⟨hafterColon, hblank'⟩ ⟨hbefore, hafter⟩ hbefore'
    (by simpa using hrest) rfl

/-- Greedy words and gaps take what the grammar gives them: each ends where the next part starts. -/
theorem ofLine?_of_states (h : States line a) : ofLine? line = some a := by
  obtain ⟨⟨hname, hchild, hchildColumn, hparent, hparentColumn⟩, ⟨href, hblank⟩, ⟨hcolon, hblank'⟩,
    ⟨hbefore, hafter⟩, hslashes, hrest, hcardinality⟩ := h
  have hstops : ∀ (q : Char → Bool) (c : Char) (t : Text), q c = false → Stops q ([c] ++ t) := by
    rintro q c t hc d ⟨⟩
    exact hc
  unfold ofLine?
  refine Option.bind_eq_some_iff.mpr ⟨_, Text.after?_eq_some_iff.mpr rfl, ?_⟩
  refine Option.bind_eq_some_iff.mpr
    ⟨_, Text.gap?_eq_some_iff.mpr ⟨_, rfl, href, hblank, hname.stops_isBlank _⟩, ?_⟩
  refine Option.bind_eq_some_iff.mpr
    ⟨_, Text.word?_eq_some_iff.mpr ⟨rfl, hname, hstops _ ':' _ (by decide)⟩, ?_⟩
  refine Option.bind_eq_some_iff.mpr ⟨_, Text.after?_eq_some_iff.mpr rfl, ?_⟩
  refine Option.bind_eq_some_iff.mpr
    ⟨_, Text.gap?_eq_some_iff.mpr ⟨_, rfl, hcolon, hblank', hchild.stops_isBlank _⟩, ?_⟩
  refine Option.bind_eq_some_iff.mpr ⟨_, dotted?_eq_some_iff.mpr ⟨rfl, hchild, hchildColumn,
    hbefore.stops_isWord (hstops _ '>' _ (by decide))⟩, ?_⟩
  refine Option.bind_eq_some_iff.mpr ⟨_, Text.after?_eq_some_iff.mpr
    (Text.skipBlanks_eq_iff.mpr ⟨_, rfl, hbefore, hstops _ '>' _ (by decide)⟩), ?_⟩
  refine Option.bind_eq_some_iff.mpr ⟨_, dotted?_eq_some_iff.mpr
    ⟨Text.skipBlanks_eq_iff.mpr ⟨_, rfl, hafter, hparent.stops_isBlank _⟩, hparent, hparentColumn,
    hslashes.stops_isWord (hstops _ '/' _ (by decide))⟩, ?_⟩
  refine Option.bind_eq_some_iff.mpr ⟨_, Text.after?_eq_some_iff.mpr
    (Text.skipBlanks_eq_iff.mpr ⟨_, rfl, hslashes, hstops _ '/' _ (by decide)⟩), ?_⟩
  rw [if_neg (by simpa using hrest), ← hcardinality]

theorem ofLine?_eq_some_iff : ofLine? line = some a ↔ States line a :=
  ⟨states_of_ofLine?, ofLine?_of_states⟩

/-- The relations that some lines state, in their order; the other lines are passed over. -/
inductive StatedIn : List Text → List Relation → Prop
  | nil : StatedIn [] []
  | states {line ls a as} (h : States line a) (rest : StatedIn ls as) :
      StatedIn (line :: ls) (a :: as)
  | passes {line ls as} (h : ∀ a, ¬ States line a) (rest : StatedIn ls as) :
      StatedIn (line :: ls) as

theorem filterMap_ofLine?_eq_iff {ls : List Text} : ls.filterMap ofLine? = as ↔ StatedIn ls as := by
  constructor
  · rintro rfl
    induction ls with
    | nil => exact .nil
    | cons line ls ih =>
      cases h : ofLine? line with
      | none =>
        rw [List.filterMap_cons_none h]
        refine .passes (fun a ha => ?_) ih
        simp [ofLine?_eq_some_iff.mpr ha] at h
      | some a =>
        rw [List.filterMap_cons_some h]
        exact .states (ofLine?_eq_some_iff.mp h) ih
  · intro h
    induction h with
    | nil => rfl
    | states h _ ih => rw [List.filterMap_cons_some (ofLine?_eq_some_iff.mpr h), ih]
    | passes h _ ih =>
      refine (List.filterMap_cons_none (Option.eq_none_iff_forall_ne_some.mpr ?_)).trans ih
      exact fun a ha => h a (ofLine?_eq_some_iff.mp ha)

/-- An empty line states nothing, so it makes no difference how a text ends. -/
theorem ofText_feed (a : Text) : ofText (a ++ ['\n']) = ofText a := by
  unfold ofText
  rcases Text.lines_feed a with h | h <;> rw [h]
  rw [List.filterMap_append]
  exact List.append_nil _

theorem ofText_append_feed (a b : Text) : ofText (a ++ '\n' :: b) = ofText a ++ ofText b := by
  rw [← ofText_feed a]
  unfold ofText
  rw [Text.lines_append_feed, List.filterMap_append]

/-- A line that is no line of its own states what it states. -/
theorem ofText_unbroken (h : line.Unbroken) : ofText line = (ofLine? line).toList := by
  by_cases hne : line = []
  · subst hne
    rfl
  · rw [ofText, Text.lines_unbroken h hne]
    cases hline : ofLine? line <;> simp [hline]

/-- A relation that a line can hold: its names are words, and its cardinality is a text of one line
without blanks at its ends. -/
structure Writable (a : Relation) : Prop extends a.Words where
  cardinality : a.cardinality ≠ [] ∧ a.cardinality.trim = a.cardinality ∧ a.cardinality.Unbroken

/-- The line that states a relation. -/
def print (a : Relation) : Text :=
  "Ref ".toList ++ a.name ++ ": ".toList ++ a.child ++ ['.'] ++ a.childColumn ++ " > ".toList
    ++ a.parent ++ ['.'] ++ a.parentColumn ++ " // ".toList ++ a.cardinality

/-- A line of a file: a relation, or whatever is none. -/
inductive Entry where
  | relation (a : Relation) (h : a.Writable)
  | other (line : Text) (unbroken : line.Unbroken) (h : ∀ a, ¬ States line a)

def Entry.print : Entry → Text
  | relation a _ => a.print
  | other line _ _ => line

def Entry.relation? : Entry → Option Relation
  | relation a _ => some a
  | other _ _ _ => none

theorem states_print (h : a.Writable) : States a.print a := by
  have hspace : [' '] ≠ [] ∧ Blanks [' '] := by decide
  have hcardinality : a.cardinality = Text.trim ([' '] ++ a.cardinality) :=
    h.cardinality.2.1.symm.trans (Text.trim_blank (by decide)).symm
  have hrest : [' '] ++ a.cardinality ≠ [] := List.cons_ne_nil _ _
  have hstates := States.mk h.toWords hspace hspace ⟨hspace.2, hspace.2⟩ hspace.2 hrest hcardinality
  obtain ⟨href, hcolon, hsign, hslashes⟩ : "Ref ".toList = "Ref".toList ++ [' '] ∧
      ": ".toList = [':'] ++ [' '] ∧ " > ".toList = [' '] ++ ['>'] ++ [' '] ∧
        " // ".toList = [' '] ++ "//".toList ++ [' '] := by decide
  unfold print
  rw [href, hcolon, hsign, hslashes]
  simpa only [List.append_assoc] using hstates

theorem unbroken_print (h : a.Writable) : Unbroken a.print := by
  have hends : ∀ c, Text.isLineEnd c = true → Text.isWord c = false := fun c hc =>
    Text.inRanges_induction hc (by decide +kernel)
  have hword : ∀ w : Text, w.Whole → w.Unbroken := by
    intro w hw c hc
    cases hend : Text.isLineEnd c with
    | false => rfl
    | true => exact absurd (hw.2 c hc) (by simp [hends c hend])
  have happend : ∀ t r : Text, t.Unbroken → r.Unbroken → (t ++ r).Unbroken :=
    fun t r ht hr => List.forall_mem_append.mpr ⟨ht, hr⟩
  unfold print
  refine happend _ _ ?_ h.cardinality.2.2
  refine happend _ _ (happend _ _ ?_ (hword _ h.parentColumn)) (by decide)
  refine happend _ _ (happend _ _ ?_ (hword _ h.parent)) (by decide)
  refine happend _ _ (happend _ _ ?_ (hword _ h.childColumn)) (by decide)
  refine happend _ _ (happend _ _ ?_ (hword _ h.child)) (by decide)
  exact happend _ _ (happend _ _ (by decide) (hword _ h.name)) (by decide)

theorem Entry.unbroken_print (e : Entry) : e.print.Unbroken := by
  cases e with
  | relation a h => exact Relation.unbroken_print h
  | other line unbroken h => exact unbroken

theorem Entry.ofText_print (e : Entry) : ofText e.print = e.relation?.toList := by
  rw [ofText_unbroken e.unbroken_print]
  cases e with
  | relation a h => exact congrArg _ (ofLine?_of_states (states_print h))
  | other line unbroken h =>
    refine congrArg _ (Option.eq_none_iff_forall_ne_some.mpr ?_)
    exact fun a ha => h a (states_of_ofLine? ha)

/-- Lines that are written one below the other state what each of them states. -/
theorem ofText_join_print (es : List Entry) :
    ofText (Text.join ['\n'] (es.map Entry.print)) = es.filterMap Entry.relation? := by
  induction es with
  | nil => rfl
  | cons e es ih =>
    have hfirst : (e :: es).filterMap Entry.relation? =
        e.relation?.toList ++ es.filterMap Entry.relation? := by
      cases h : e.relation? <;> simp [h]
    rw [hfirst]
    cases es with
    | nil => simpa [Text.join] using e.ofText_print
    | cons next es =>
      have hjoin : Text.join ['\n'] ((e :: next :: es).map Entry.print) =
          e.print ++ '\n' :: Text.join ['\n'] ((next :: es).map Entry.print) := by
        simp [Text.join]
      rw [hjoin, ofText_append_feed, e.ofText_print, ih]

/-- A text states the relations that its lines state by the grammar, in their order and no others.
So two texts with a line feed between them state what the one and the other state, and relations
that are printed are read back as they are, whatever other lines stand between them. -/
theorem ofText_line_by_line :
    (∀ t as, ofText t = as ↔ StatedIn (Text.lines t) as) ∧
      (∀ a b, ofText (a ++ '\n' :: b) = ofText a ++ ofText b) ∧
        ∀ es : List Entry,
          ofText (Text.join ['\n'] (es.map Entry.print)) = es.filterMap Entry.relation? :=
  ⟨fun _ _ => filterMap_ofLine?_eq_iff, ofText_append_feed, ofText_join_print⟩

end Relation
end SchemaDiagram
