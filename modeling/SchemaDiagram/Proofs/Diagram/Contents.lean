import Mathlib
import SchemaDiagram.Diagram.Basic
import SchemaDiagram.Proofs.Text.Words

/-!
What the text of a diagram tells. It consists of the blocks of entities and of arcs between them;
where names are words, no two diagrams with other blocks or other arcs have the same text.
-/
namespace SchemaDiagram

open Text (Blankless)

variable {ts us : List Table} {t r : Text}

namespace Diagram

/-- A column as a block shows it. -/
structure Attribute where
  type : Text
  name : Text
  badge : Text
deriving DecidableEq

/-- What a block shows of a table. -/
structure Entity where
  name : Text
  attributes : List Attribute
deriving DecidableEq

/-- What a line shows of a relation between two entities. -/
structure Arc where
  parent : Text
  arrow : Arrow
  child : Text
  label : Text
deriving DecidableEq

variable {a b : Attribute} {d e : Entity} {ds es : List Entity} {as bs : List Arc} {x y : Arc}
  {c : Column}

def Attribute.ofColumn (c : Column) : Attribute :=
  { type := lowLines false (Text.upper c.type), name := c.name, badge := Diagram.badge c }

def Entity.ofTable (t : Table) : Entity :=
  { name := entityName t.name, attributes := t.columns.map Attribute.ofColumn }

def Arc.ofRelation (a : Relation) : Arc :=
  { parent := Text.upper a.parent, arrow := if a.isMany then .many else .one
    child := Text.upper a.child, label := Diagram.label (title a) }

def Arc.ofLink (l : Link) : Arc :=
  { parent := Text.upper l.parent, arrow := if l.oneToOne then .one else .many
    child := Text.upper l.child, label := Diagram.label (l.childColumn ++ ['→'] ++ l.parentColumn) }

/-- The entities of some tables, each as the first table of its name gives it. -/
def entities (ts : List Table) : List Entity := (firsts [] ts).map Entity.ofTable

/-- Stated relations, and after them the foreign key columns of all tables. -/
def arcs (ts : List Table) (stated : List Relation) : List Arc :=
  stated.map Arc.ofRelation ++ (ts.flatMap Table.links).map Arc.ofLink

def Attribute.line (a : Attribute) : Text :=
  "    ".toList ++ (a.type ++ ' ' :: (a.name ++ a.badge))

def Entity.header (e : Entity) : Text := "  ".toList ++ (e.name ++ " \x7b".toList)

/-- The line that ends a block. -/
def closing : Text := "  \x7d".toList

def Entity.lines (e : Entity) : List Text := e.header :: e.attributes.map Attribute.line ++ [closing]

def Arc.line (a : Arc) : Text :=
  "  ".toList ++ (a.parent ++ ' ' :: (a.arrow.text ++ ' ' :: (a.child ++ " : ".toList ++ a.label)))

theorem columnLine_eq (c : Column) : columnLine c = (Attribute.ofColumn c).line := by
  simp [columnLine, Attribute.line, Attribute.ofColumn]

theorem block_eq (t : Table) : block t = (Entity.ofTable t).lines := by
  have hline : columnLine = Attribute.line ∘ Attribute.ofColumn := funext columnLine_eq
  simp [block, Entity.lines, Entity.header, Entity.ofTable, hline, closing]

theorem statedLine_eq (a : Relation) : statedLine a = (Arc.ofRelation a).line := by
  simp [statedLine, relationLine, Arc.line, Arc.ofRelation]

theorem linkLine_eq (l : Link) : linkLine l = (Arc.ofLink l).line := by
  simp [linkLine, relationLine, Arc.line, Arc.ofLink]

theorem lines_eq (h : ts ≠ []) (stated : List Relation) : lines ts stated =
    "erDiagram".toList :: ((entities ts).flatMap Entity.lines ++ (arcs ts stated).map Arc.line) := by
  have hblock : block = Entity.lines ∘ Entity.ofTable := funext block_eq
  have hstated : statedLine = Arc.line ∘ Arc.ofRelation := funext statedLine_eq
  have hlink : linkLine = Arc.line ∘ Arc.ofLink := funext linkLine_eq
  simp [lines, h, hblock, hstated, hlink, entities, arcs, List.flatMap_map, Function.comp_def]

/-- Types and names without blanks, and one of the badges or none. -/
structure Attribute.Legible (a : Attribute) : Prop where
  type : Blankless a.type
  name : Blankless a.name
  badge : a.badge ∈ [[], " PK".toList, " FK".toList]

structure Entity.Legible (e : Entity) : Prop where
  name : Blankless e.name
  attributes : ∀ a ∈ e.attributes, a.Legible

/-- Entities without blanks, and a label that does not end the line. -/
structure Arc.Legible (a : Arc) : Prop where
  parent : Blankless a.parent
  child : Blankless a.child
  label : '\n' ∉ a.label

theorem Attribute.Legible.startsBlank (ha : a.Legible) : a.badge.head?.all Text.isBlank = true := by
  have hbadges : ∀ t ∈ [[], " PK".toList, " FK".toList], t.head?.all Text.isBlank = true := by decide
  exact hbadges a.badge ha.badge

/-- An attribute is read off its line: the type, the name and the badge end at blanks. -/
theorem Attribute.line_inj (ha : a.Legible) (hb : b.Legible) (h : a.line = b.line) : a = b := by
  have h := List.append_cancel_left h
  obtain ⟨htype, h⟩ := Text.append_inj_of_blankless ha.type hb.type rfl rfl h
  obtain ⟨hname, hbadge⟩ := Text.append_inj_of_blankless ha.name hb.name ha.startsBlank
    hb.startsBlank (List.cons.inj h).2
  cases a
  cases b
  simp_all

theorem Attribute.line_ne_closing (a : Attribute) : a.line ≠ closing := by
  intro h
  have hthird := congrArg (·[2]?) h
  simp [line, closing] at hthird

/-- Lines of attributes are read off up to the line that ends their block. -/
theorem attributes_inj {as bs : List Attribute} {rest rest' : List Text}
    (has : ∀ a ∈ as, a.Legible) (hbs : ∀ b ∈ bs, b.Legible)
    (h : as.map Attribute.line ++ closing :: rest = bs.map Attribute.line ++ closing :: rest') :
    as = bs ∧ rest = rest' := by
  induction as generalizing bs with
  | nil =>
    cases bs with
    | nil => exact ⟨rfl, (List.cons.inj h).2⟩
    | cons b bs => exact absurd (List.cons.inj h).1.symm b.line_ne_closing
  | cons a as ih =>
    cases bs with
    | nil => exact absurd (List.cons.inj h).1 a.line_ne_closing
    | cons b bs =>
      obtain ⟨hline, h⟩ := List.cons.inj h
      obtain ⟨ha, has⟩ := List.forall_mem_cons.mp has
      obtain ⟨hb, hbs⟩ := List.forall_mem_cons.mp hbs
      obtain ⟨rfl, rfl⟩ := ih has hbs h
      exact ⟨congrArg (· :: as) (Attribute.line_inj ha hb hline), rfl⟩

theorem Entity.header_inj (hd : Blankless d.name) (he : Blankless e.name)
    (h : d.header = e.header) : d.name = e.name :=
  (Text.append_inj_of_blankless hd he rfl rfl (List.append_cancel_left h)).1

/-- A block is read off the front of the lines. -/
theorem Entity.lines_append_inj {rest rest' : List Text} (hd : d.Legible) (he : e.Legible)
    (h : d.lines ++ rest = e.lines ++ rest') : d = e ∧ rest = rest' := by
  simp only [lines, List.cons_append, List.append_assoc, List.nil_append] at h
  obtain ⟨hheader, h⟩ := List.cons.inj h
  obtain ⟨hattributes, rfl⟩ := attributes_inj hd.attributes he.attributes h
  have hname := header_inj hd.name he.name hheader
  obtain ⟨name, attributes⟩ := d
  obtain ⟨name', attributes'⟩ := e
  exact ⟨congr (congrArg mk hname) hattributes, rfl⟩

theorem blankless_text (a : Arrow) : Blankless a.text := by
  cases a <;> decide

theorem text_inj {a b : Arrow} (h : a.text = b.text) : a = b := by
  revert h
  cases a <;> cases b <;> decide

/-- An arc is read off its line. -/
theorem Arc.line_inj (hx : x.Legible) (hy : y.Legible) (h : x.line = y.line) : x = y := by
  have h := List.append_cancel_left h
  obtain ⟨hparent, h⟩ := Text.append_inj_of_blankless hx.parent hy.parent rfl rfl h
  obtain ⟨harrow, h⟩ := Text.append_inj_of_blankless (blankless_text _) (blankless_text _) rfl rfl
    (List.cons.inj h).2
  have h := (List.cons.inj h).2
  rw [List.append_assoc, List.append_assoc] at h
  obtain ⟨hchild, h⟩ := Text.append_inj_of_blankless hx.child hy.child rfl rfl h
  have harrow := text_inj harrow
  have hlabel := List.append_cancel_left h
  cases x
  cases y
  simp_all

/-- After the entity, a header has its brace where an arc has its arrow. -/
theorem Entity.header_ne_line (he : e.Legible) (hx : x.Legible) : e.header ≠ x.line := by
  intro h
  obtain ⟨-, h⟩ := Text.append_inj_of_blankless he.name hx.parent rfl rfl
    (List.append_cancel_left h)
  have h := (List.cons.inj h).2
  cases harrow : x.arrow <;> rw [harrow] at h <;> exact absurd (List.cons.inj h).1 (by decide)

theorem arcs_inj (has : ∀ a ∈ as, a.Legible) (hbs : ∀ b ∈ bs, b.Legible)
    (h : as.map Arc.line = bs.map Arc.line) : as = bs := by
  induction as generalizing bs with
  | nil => simpa using h
  | cons a as ih =>
    cases bs with
    | nil => cases h
    | cons b bs =>
      obtain ⟨hline, h⟩ := List.cons.inj h
      obtain ⟨ha, has⟩ := List.forall_mem_cons.mp has
      obtain ⟨hb, hbs⟩ := List.forall_mem_cons.mp hbs
      rw [Arc.line_inj ha hb hline, ih has hbs h]

/-- Blocks and arcs are read off their lines one by one. -/
theorem contents_inj (hds : ∀ d ∈ ds, d.Legible) (hes : ∀ e ∈ es, e.Legible)
    (has : ∀ a ∈ as, a.Legible) (hbs : ∀ b ∈ bs, b.Legible)
    (h : ds.flatMap Entity.lines ++ as.map Arc.line = es.flatMap Entity.lines ++ bs.map Arc.line) :
    ds = es ∧ as = bs := by
  induction ds generalizing es with
  | nil =>
    cases es with
    | nil => exact ⟨rfl, arcs_inj has hbs h⟩
    | cons e es =>
      cases as with
      | nil => cases h
      | cons a as =>
        exact absurd (List.cons.inj h).1.symm
          (Entity.header_ne_line (hes e (by simp)) (has a (by simp)))
  | cons d ds ih =>
    cases es with
    | nil =>
      cases bs with
      | nil => cases h
      | cons b bs =>
        exact absurd (List.cons.inj h).1
          (Entity.header_ne_line (hds d (by simp)) (hbs b (by simp)))
    | cons e es =>
      obtain ⟨hd, hds⟩ := List.forall_mem_cons.mp hds
      obtain ⟨he, hes⟩ := List.forall_mem_cons.mp hes
      rw [List.flatMap_cons, List.flatMap_cons, List.append_assoc, List.append_assoc] at h
      obtain ⟨hhead, h⟩ := Entity.lines_append_inj hd he h
      obtain ⟨htail, harcs⟩ := ih hds hes h
      exact ⟨congr (congrArg List.cons hhead) htail, harcs⟩

theorem not_mem_lines (he : e.Legible) : ∀ line ∈ e.lines, '\n' ∉ line := by
  intro line hline
  rcases List.mem_cons.mp hline with rfl | hline
  · simpa [Entity.header] using he.name.not_mem (b := '\n') rfl
  rcases List.mem_append.mp hline with hline | hline
  · obtain ⟨a, ha, rfl⟩ := List.mem_map.mp hline
    have ha := he.attributes a ha
    have hbadges : ∀ t ∈ [[], " PK".toList, " FK".toList], '\n' ∉ t := by decide
    simpa [Attribute.line] using
      ⟨ha.type.not_mem (b := '\n') rfl, ha.name.not_mem (b := '\n') rfl, hbadges _ ha.badge⟩
  · rw [List.mem_singleton.mp hline]
    decide

theorem Arc.not_mem_line (hx : x.Legible) : '\n' ∉ x.line := by
  have harrow := (blankless_text x.arrow).not_mem (b := '\n') rfl
  simpa [Arc.line] using
    ⟨hx.parent.not_mem (b := '\n') rfl, harrow, hx.child.not_mem (b := '\n') rfl, hx.label⟩

theorem joinHyphens_subset (t : Text) : joinHyphens t ⊆ '—' :: t := by
  fun_induction joinHyphens t with
  | case1 => simp
  | case2 t ih =>
    have hrest : t ⊆ '-' :: '-' :: t := fun c hc => by simp [hc]
    exact List.cons_subset.mpr ⟨by simp, List.Subset.trans ih (List.cons_subset_cons _ hrest)⟩
  | case3 c t _ ih =>
    exact List.cons_subset.mpr ⟨by simp, List.Subset.trans ih (List.cons_subset_cons _ (by simp))⟩

theorem joinArrows_subset (t : Text) : joinArrows t ⊆ '→' :: t := by
  fun_induction joinArrows t with
  | case1 => simp
  | case2 t ih =>
    have hrest : t ⊆ '-' :: '>' :: t := fun c hc => by simp [hc]
    exact List.cons_subset.mpr ⟨by simp, List.Subset.trans ih (List.cons_subset_cons _ hrest)⟩
  | case3 c t _ ih =>
    exact List.cons_subset.mpr ⟨by simp, List.Subset.trans ih (List.cons_subset_cons _ (by simp))⟩

theorem trim_subset (t : Text) : Text.trim t ⊆ t := by
  intro c hc
  have hc : c ∈ ((Text.skipBlanks t).reverse.dropWhile Text.isBlank).reverse := hc
  rw [List.mem_reverse] at hc
  have hc := (List.dropWhile_sublist _).subset hc
  rw [List.mem_reverse] at hc
  exact (List.dropWhile_sublist _).subset hc

/-- A label has no line feed that its text does not have. -/
theorem not_mem_label (h : '\n' ∉ t) : '\n' ∉ label t := by
  have hquote : ∀ c, angleQuote c = '\n' → c = '\n' := by
    intro c hc
    unfold angleQuote at hc
    split at hc
    · exact absurd hc (by decide)
    · split at hc
      · exact absurd hc (by decide)
      · exact hc
  have htrim : '\n' ∉ Text.trim ((joinArrows ((joinHyphens t).filter (!isFrame ·))).map
      angleQuote) := by
    intro hm
    obtain ⟨c, hc, hcn⟩ := List.mem_map.mp (trim_subset _ hm)
    obtain rfl := hquote c hcn
    rcases List.mem_cons.mp (joinArrows_subset _ hc) with hc | hc
    · exact absurd hc (by decide)
    rcases List.mem_cons.mp (joinHyphens_subset _ (List.mem_filter.mp hc).1) with hc | hc
    · exact absurd hc (by decide)
    · exact h hc
  unfold label
  dsimp only
  split
  · intro hm
    simp only [List.mem_cons, List.mem_append, List.mem_map, List.not_mem_nil, or_false] at hm
    rcases hm with (hm | ⟨c, hc, hcn⟩) | hm
    · exact absurd hm (by decide)
    · split at hcn
      · exact absurd hcn (by decide)
      · exact htrim (hcn ▸ hc)
    · exact absurd hm (by decide)
  · exact htrim

end Diagram

/-- A text of letters, digits and low lines of any script. -/
def Text.InWord (t : Text) : Prop := ∀ c ∈ t, Text.isWord c = true

instance (t : Text) : Decidable (Text.InWord t) :=
  decidable_of_iff (t.all Text.isWord = true) (by simp [Text.InWord])

/-- The names in a table, and the names that its columns point at, are words. -/
structure Table.InWords (t : Table) : Prop where
  name : t.name.InWord
  column : ∀ c ∈ t.columns, c.name.InWord
  reference : ∀ c ∈ t.columns, ∀ r, c.reference = some r → r.table.InWord ∧ r.column.InWord

/-- The words that a line of a relation consists of. -/
structure Relation.InWords (a : Relation) : Prop where
  name : a.name ≠ [] ∧ a.name.InWord
  child : a.child.InWord
  parent : a.parent.InWord

theorem Text.word?_inWord {w : Text} (h : Text.word? t = some (w, r)) : w ≠ [] ∧ w.InWord := by
  unfold Text.word? at h
  split at h
  · cases h
  · next hne =>
    obtain ⟨rfl, -⟩ := Prod.mk.inj (Option.some.inj h)
    refine ⟨fun he => hne _ (Prod.ext he rfl), fun c hc => ?_⟩
    exact (List.all_eq_true.mp List.all_takeWhile) c hc

theorem Relation.dotted?_inWord {table column : Text} (h : dotted? t = some (table, column, r)) :
    table.InWord := by
  obtain ⟨⟨w, rest⟩, hw, h⟩ := Option.bind_eq_some_iff.mp h
  obtain ⟨rest, -, h⟩ := Option.bind_eq_some_iff.mp h
  obtain ⟨⟨w', rest⟩, -, h⟩ := Option.bind_eq_some_iff.mp h
  cases h
  exact (Text.word?_inWord hw).2

theorem Relation.ofLine?_inWords {a : Relation} (h : ofLine? t = some a) : a.InWords := by
  obtain ⟨_, -, h⟩ := Option.bind_eq_some_iff.mp h
  obtain ⟨_, -, h⟩ := Option.bind_eq_some_iff.mp h
  obtain ⟨⟨name, _⟩, hname, h⟩ := Option.bind_eq_some_iff.mp h
  obtain ⟨_, -, h⟩ := Option.bind_eq_some_iff.mp h
  obtain ⟨_, -, h⟩ := Option.bind_eq_some_iff.mp h
  obtain ⟨⟨child, _, _⟩, hchild, h⟩ := Option.bind_eq_some_iff.mp h
  obtain ⟨_, -, h⟩ := Option.bind_eq_some_iff.mp h
  obtain ⟨⟨parent, _, _⟩, hparent, h⟩ := Option.bind_eq_some_iff.mp h
  obtain ⟨rest, -, h⟩ := Option.bind_eq_some_iff.mp h
  split at h
  · cases h
  · cases h
    exact ⟨Text.word?_inWord hname, dotted?_inWord hchild, dotted?_inWord hparent⟩

theorem Relation.ofText_inWords {a : Relation} (h : a ∈ ofText t) : a.InWords := by
  obtain ⟨line, -, hline⟩ := List.mem_filterMap.mp h
  exact ofLine?_inWords hline

namespace Diagram

theorem firsts_subset (seen : List Text) (ts : List Table) : firsts seen ts ⊆ ts := by
  fun_induction firsts seen ts with
  | case1 => simp
  | case2 seen t ts _ ih => exact List.Subset.trans ih (by simp)
  | case3 seen t ts _ ih => exact List.cons_subset_cons t ih

theorem blankless_lowLines (inRun : Bool) (t : Text) : Blankless (lowLines inRun t) := by
  fun_induction lowLines inRun t with
  | case1 => simp [Blankless]
  | case2 _ _ _ ih => exact ih
  | case3 inRun c t _ _ ih => exact List.forall_mem_cons.mpr ⟨rfl, ih⟩
  | case4 inRun c t hc ih => exact List.forall_mem_cons.mpr ⟨by simpa using hc, ih⟩

theorem badge_mem (c : Column) : badge c ∈ [[], " PK".toList, " FK".toList] := by
  unfold badge
  split
  · simp
  · split <;> simp

theorem legible_entities (h : ∀ t ∈ ts, t.InWords) : ∀ e ∈ entities ts, e.Legible := by
  intro e he
  obtain ⟨t, ht, rfl⟩ := List.mem_map.mp he
  have ht := h t (firsts_subset [] ts ht)
  refine ⟨(Text.blankless_of_isWord ht.name).upper, fun a ha => ?_⟩
  obtain ⟨c, hc, rfl⟩ := List.mem_map.mp ha
  exact ⟨blankless_lowLines _ _, Text.blankless_of_isWord (ht.column c hc), badge_mem c⟩

theorem legible_ofRelation {a : Relation} (ha : a.InWords) : (Arc.ofRelation a).Legible := by
  refine ⟨(Text.blankless_of_isWord ha.parent).upper, (Text.blankless_of_isWord ha.child).upper, ?_⟩
  have htitle : title a = a.name := by simp [title, ha.name.1]
  rw [Arc.ofRelation, htitle]
  exact not_mem_label ((Text.blankless_of_isWord ha.name.2).not_mem rfl)

theorem legible_ofLink {t : Table} {l : Link} (ht : t.InWords) (hl : l ∈ t.links) :
    (Arc.ofLink l).Legible := by
  obtain ⟨c, hc, hl⟩ := List.mem_filterMap.mp hl
  obtain ⟨r, hr, rfl⟩ := Option.map_eq_some_iff.mp hl
  have hc := (List.mem_filter.mp hc).1
  obtain ⟨htable, hcolumn⟩ := ht.reference c hc r hr
  have hchild := (Text.blankless_of_isWord (ht.column c hc)).not_mem (b := '\n') rfl
  have hparent := (Text.blankless_of_isWord hcolumn).not_mem (b := '\n') rfl
  refine ⟨(Text.blankless_of_isWord htable).upper, (Text.blankless_of_isWord ht.name).upper, ?_⟩
  exact not_mem_label (by simpa using ⟨hchild, hparent⟩)

theorem legible_arcs (h : ∀ t ∈ ts, t.InWords) (stated : Text) :
    ∀ a ∈ arcs ts (Relation.ofText stated), a.Legible := by
  intro a ha
  rcases List.mem_append.mp ha with ha | ha
  · obtain ⟨relation, hr, rfl⟩ := List.mem_map.mp ha
    exact legible_ofRelation (Relation.ofText_inWords hr)
  · obtain ⟨l, hl, rfl⟩ := List.mem_map.mp ha
    obtain ⟨t, ht, hl⟩ := List.mem_flatMap.mp hl
    exact legible_ofLink (h t ht) hl

/-- The text of a diagram is cut into its lines again. -/
theorem splitAt_render (hne : ts ≠ []) (h : ∀ t ∈ ts, t.InWords) (stated : Text) :
    Text.splitAt '\n' (render ts (Relation.ofText stated)) = lines ts (Relation.ofText stated) := by
  have hlines := lines_eq hne (Relation.ofText stated)
  refine Text.splitAt_join_lines (by simp [hlines]) ?_
  intro line hline
  rw [hlines] at hline
  rcases List.mem_cons.mp hline with rfl | hline
  · decide
  rcases List.mem_append.mp hline with hline | hline
  · obtain ⟨e, he, hline⟩ := List.mem_flatMap.mp hline
    exact not_mem_lines (legible_entities h e he) line hline
  · obtain ⟨a, ha, rfl⟩ := List.mem_map.mp hline
    exact Arc.not_mem_line (legible_arcs h stated a ha)

/-- Diagrams of tables whose names are words have the same text only where they have the same
entities, each with the same attributes in the same order, and the same arcs in the same order. -/
theorem render_unambiguous {stated stated' : Text} (hts : ts ≠ []) (hus : us ≠ [])
    (htw : ∀ t ∈ ts, t.InWords) (huw : ∀ u ∈ us, u.InWords)
    (h : render ts (Relation.ofText stated) = render us (Relation.ofText stated')) :
    entities ts = entities us ∧
      arcs ts (Relation.ofText stated) = arcs us (Relation.ofText stated') := by
  have hlines := congrArg (Text.splitAt '\n') h
  rw [splitAt_render hts htw, splitAt_render hus huw, lines_eq hts, lines_eq hus] at hlines
  exact contents_inj (legible_entities htw) (legible_entities huw) (legible_arcs htw stated)
    (legible_arcs huw stated') (List.cons.inj hlines).2

/-- Letter case, a table that comes twice and the blanks in a type leave no trace in the text. -/
theorem render_unambiguous_cases :
    let child : Column := { name := "id".toList, type := "int".toList, isPrimary := true }
    let parent : Column :=
      { name := "pk".toList, type := "double  precision".toList,
        reference := some ⟨"Users".toList, "id".toList⟩ }
    let ts : List Table := [⟨"users".toList, [child]⟩, ⟨"Orders".toList, [child, parent]⟩,
      ⟨"USERS".toList, []⟩]
    let us : List Table := [⟨"Users".toList, [child]⟩, ⟨"orders".toList,
      [child, { parent with type := "DOUBLE PRECISION".toList }]⟩]
    let stated : Text := "Ref by: Orders.pk > users.id // many to one".toList
    let stated' : Text := "Ref by: orders.pk > Users.id // many".toList
    render ts (Relation.ofText stated) = render us (Relation.ofText stated') ∧
      entities ts = entities us ∧
      arcs ts (Relation.ofText stated) = arcs us (Relation.ofText stated') := by
  intro child parent ts us stated stated'
  have hwords : ∀ l ∈ [ts, us], ∀ t ∈ l, t.InWords := by
    have hnames : ∀ l ∈ [ts, us], ∀ t ∈ l, t.name.InWord ∧ ∀ c ∈ t.columns, c.name.InWord ∧
        ∀ r ∈ c.reference, r.table.InWord ∧ r.column.InWord := by decide +kernel
    intro l hl t ht
    obtain ⟨hname, hcolumns⟩ := hnames l hl t ht
    exact ⟨hname, fun c hc => (hcolumns c hc).1, fun c hc => (hcolumns c hc).2⟩
  have hrender : render ts (Relation.ofText stated) = render us (Relation.ofText stated') := by
    decide +kernel
  exact ⟨hrender, render_unambiguous (by simp [ts]) (by simp [us]) (hwords ts (by simp))
    (hwords us (by simp)) hrender⟩

end Diagram
end SchemaDiagram
