import SchemaDiagram.Proofs.Postgres.Agreement

/-!
Where the types of columns come from. The tree of a script gives the columns and the text of its
statements the spellings of their types; the two are joined by the names of tables and columns.
-/
namespace SchemaDiagram

open Sql Postgres

variable {t : Table} {c : Column} {n : Text} {ps : List Text} {es : List Element}
  {types : List (Text × Text)}

namespace Table

/-- The name of a table, and its columns by their names and types. -/
def typed (t : Table) : Text × List (Text × Text) :=
  (t.name, t.columns.map fun c => (c.name, c.type))

theorem map_column? (t : Table) (n : Text) :
    (t.column? n).map (fun c => (c.name, c.type)) = t.typed.2.find? (sameName ·.1 n) := by
  rw [typed, List.find?_map]
  rfl

/-! No key changes the name or the type of a column. -/

theorem typed_changeColumn (change : Column → Column)
    (h : ∀ c, (change c).name = c.name ∧ (change c).type = c.type) (name : Text) (t : Table) :
    (t.changeColumn name change).typed = t.typed := by
  refine Prod.ext changeColumn_name (List.ext_getElem? fun j => ?_)
  simp only [typed, List.getElem?_map, changeColumn_getElem?]
  split
  · cases t.columns[j]? <;> simp [h]
  · rfl

@[simp] theorem typed_applyPrimary (columns : List Text) (t : Table) :
    (t.applyPrimary columns).typed = t.typed :=
  foldl_changeColumn id (fun _ => Column.markPrimary) columns (P := fun u => u.typed = t.typed)
    (fun u name hu => (typed_changeColumn Column.markPrimary (fun _ => ⟨rfl, rfl⟩) name u).trans hu)
    rfl

@[simp] theorem typed_applyForeign (k : ForeignKey) (t : Table) :
    (t.applyForeign k).typed = t.typed :=
  foldl_changeColumn Prod.fst (fun pair => Column.pointAt k.refTable pair.2) k.pairs
    (P := fun u => u.typed = t.typed)
    (fun u pair hu =>
      (typed_changeColumn (Column.pointAt _ _) (fun _ => ⟨rfl, rfl⟩) pair.1 u).trans hu) rfl

@[simp] theorem typed_applyUnique (columns : List Text) (t : Table) :
    (t.applyUnique columns).typed = t.typed := by
  unfold applyUnique
  split
  · exact typed_changeColumn Column.markUnique (fun _ => ⟨rfl, rfl⟩) _ t
  · rfl

theorem lookup_types (t : Table) (n : Text) :
    t.types.lookup (Text.lower n) = (t.column? n).map (·.type) := by
  unfold types column?
  induction t.columns with
  | nil => rfl
  | cons c cs ih =>
    rw [List.map_cons, List.lookup_cons, List.find?_cons, ih, sameName, BEq.comm]
    cases Text.lower c.name == Text.lower n <;> rfl

/-- A column that is declared is found where no column of its name was there. -/
theorem column?_declare (t : Table) (c : Column) (n : Text) :
    (t.declare c).column? n = (t.column? n).or (if sameName c.name n then some c else none) := by
  have hsame : sameName c.name n = true → t.column? c.name = t.column? n := by
    intro h
    have h : Text.lower c.name = Text.lower n := by simpa [sameName] using h
    simp only [column?, sameName, h]
  unfold declare
  split
  · next h =>
    by_cases hn : sameName c.name n
    · rw [hsame hn] at h
      rw [Option.or_of_isSome h]
    · simp [hn]
  · simp only [column?, List.find?_append, List.find?_singleton]

end Table

namespace Sql

/-- The definitions among some parts: the name of each and what is declared for it. -/
def definitionsIn (ps : List Text) : List (Text × Text) :=
  (ps.filter fun p => partKind p = .column).filterMap definitionHead?

/-- The parts of the body of a statement that creates a table. -/
def bodyParts (statement : Text) : List Text :=
  match createHead? statement with
  | none => []
  | some (_, rest) => ((Scan.body? { depth := 1 } rest).map (parts ·.1)).getD []

/-- The definitions in the body of a statement that creates a table. -/
def definitions (statement : Text) : List (Text × Text) := definitionsIn (bodyParts statement)

/-- The type at the front of a definition; a definition without one counts as of unknown type. -/
def spelling (definition : Text × Text) : Text :=
  let type := columnType definition.2
  if type.isEmpty then unknownType else type

/-- The type that a statement gives a column of a name: that of the first definition of the name,
unless it is empty or stands for no type at all. -/
def declaredType? (statement n : Text) : Option Text :=
  (((definitions statement).find? (sameName ·.1 n)).map fun d => columnType d.2).filter fun type =>
    !type.isEmpty && type != unknownType

theorem column?_name_type (p : Text) :
    (column? p).map (fun c => (c.name, c.type)) =
      (definitionHead? p).map fun d => (d.1, spelling d) := by
  unfold column?
  cases definitionHead? p with
  | none => rfl
  | some d => exact congrArg some (Prod.ext (columnOf_name_type ..).1 (columnOf_name_type ..).2)

theorem column?_declarePart (t : Table) (p n : Text) :
    ((declarePart t p).column? n).map (fun c => (c.name, c.type)) =
      ((t.column? n).map fun c => (c.name, c.type)).or
        (((definitionsIn [p]).find? (sameName ·.1 n)).map fun d => (d.1, spelling d)) := by
  by_cases hk : partKind p = .column
  · have hcolumn := column?_name_type p
    have hdefinitions : definitionsIn [p] = (definitionHead? p).toList := by
      cases hd : definitionHead? p <;> simp [definitionsIn, hk, hd]
    rw [declarePart, hk, hdefinitions]
    cases hc : column? p with
    | none =>
      rw [hc] at hcolumn
      cases hd : definitionHead? p with
      | none => simp
      | some d => simp [hd] at hcolumn
    | some c =>
      rw [hc] at hcolumn
      obtain ⟨d, hd, hcd⟩ := Option.map_eq_some_iff.mp hcolumn.symm
      obtain ⟨hname, htype⟩ := Prod.mk.inj hcd
      rw [hd, Table.column?_declare]
      cases t.column? n <;> cases hs : sameName c.name n <;> simp [hs, hname, htype]
  · rw [declarePart_of_ne hk]
    simp [definitionsIn, hk]

theorem definitionsIn_append (ps qs : List Text) :
    definitionsIn (ps ++ qs) = definitionsIn ps ++ definitionsIn qs := by
  simp only [definitionsIn, List.filter_append, List.filterMap_append]

theorem column?_foldl_declarePart (ps : List Text) (t : Table) (n : Text) :
    ((ps.foldl declarePart t).column? n).map (fun c => (c.name, c.type)) =
      ((t.column? n).map fun c => (c.name, c.type)).or
        (((definitionsIn ps).find? (sameName ·.1 n)).map fun d => (d.1, spelling d)) := by
  induction ps generalizing t with
  | nil => simp [definitionsIn]
  | cons p ps ih =>
    have hcons := definitionsIn_append [p] ps
    rw [List.singleton_append] at hcons
    rw [List.foldl_cons, ih, column?_declarePart, hcons, List.find?_append, Option.map_or,
      Option.or_assoc]

theorem typed_applyPart (t : Table) (p : Text) : (applyPart t p).typed = t.typed := by
  unfold applyPart
  split
  · simp
  · split <;> simp
  · simp
  · rfl
  · rfl

/-- The first definition of a name gives the column of that name and its type. -/
theorem column?_tableOf (name : Text) (ps : List Text) (n : Text) :
    ((tableOf name ps).column? n).map (fun c => (c.name, c.type)) =
      ((definitionsIn ps).find? (sameName ·.1 n)).map fun d => (d.1, spelling d) := by
  have hconstraints : (tableOf name ps).typed = (ps.foldl declarePart { name }).typed :=
    List.foldlRecOn ps applyPart (motive := fun u : Table => u.typed = _) rfl
      fun u hu p _ => (typed_applyPart u p).trans hu
  rw [Table.map_column?, hconstraints, ← Table.map_column?, column?_foldl_declarePart]
  rfl

theorem lookup_tableOf (name : Text) (ps : List Text) (n : Text) :
    (tableOf name ps).types.lookup (Text.lower n) =
      ((definitionsIn ps).find? (sameName ·.1 n)).map spelling := by
  have hcolumn := congrArg (Option.map Prod.snd) (column?_tableOf name ps n)
  rw [Option.map_map, Option.map_map] at hcolumn
  rw [Table.lookup_types]
  exact hcolumn

/-- A table that is read off a statement has the types of its definitions. -/
theorem lookup_readableTable? {o : Outline} (h : readableTable? o = some t) (n : Text) :
    t.types.lookup (Text.lower n) = ((definitions o.text).find? (sameName ·.1 n)).map spelling := by
  unfold readableTable? at h
  split at h
  · next table? _ hcreate =>
    subst h
    unfold createTable at hcreate
    split at hcreate
    · cases hcreate
    · next name rest hhead =>
      split at hcreate
      · cases hcreate
      · next body _ hbody =>
        cases hcreate
        rw [lookup_tableOf, definitions, bodyParts, hhead]
        simp [hbody]
  · cases h

/-- The first table of a name gives the types. -/
theorem typesOf_foldl_add (ts : List Table) (name : Text) :
    TypeIndex.typesOf (ts.foldl TypeIndex.add []) name =
      ((ts.find? (sameName ·.name name)).map Table.types).getD [] := by
  have hlookup : ∀ index : TypeIndex, (ts.foldl TypeIndex.add index).lookup (Text.lower name) =
      (index.lookup (Text.lower name)).or ((ts.find? (sameName ·.name name)).map Table.types) := by
    induction ts with
    | nil => simp
    | cons t ts ih =>
      intro index
      rw [List.foldl_cons, ih, List.find?_cons, TypeIndex.add]
      by_cases hn : Text.lower t.name = Text.lower name
      · simp only [sameName, hn, beq_self_eq_true]
        cases hi : index.lookup (Text.lower name) with
        | none => simp [List.lookup_append, hi, Table.types]
        | some _ => simp [hi]
      · have hne : (Text.lower name == Text.lower t.name) = false := by simpa using Ne.symm hn
        simp only [sameName, beq_eq_false_iff_ne.mpr hn]
        split <;> simp [List.lookup_append, List.lookup_cons, hne]
  rw [TypeIndex.typesOf, hlookup]
  rfl

end Sql

namespace Postgres

/-- The name of a column and the type that the tree has for it. -/
def Element.column? : Element → Option (Text × Option TypeName)
  | .column name type _ => some (name, type)
  | .constraint _ | .named _ _ => none

/-- The table that a statement creates: its name and its column list. -/
def Statement.creates? : Statement → Option (Text × List Element)
  | .createTable name elements => some (name, elements)
  | .alterTable _ _ | .other => none

theorem foldl_constrain_name_type (constraints : List ColumnConstraint) (c : Column) :
    (constraints.foldl constrain c).name = c.name ∧ (constraints.foldl constrain c).type = c.type := by
  refine List.foldlRecOn constraints constrain
    (motive := fun d : Column => d.name = c.name ∧ d.type = c.type) ⟨rfl, rfl⟩ ?_
  intro d hd constraint _
  cases constraint <;> exact hd

/-- A column of the table is the first of its name in the column list. -/
theorem mem_foldl_declareColumn (h : c ∈ (es.foldl (declareColumn types) t).columns) :
    c ∈ t.columns ∨ t.column? c.name = none ∧
      ∃ type, (es.filterMap Element.column?).find? (sameName ·.1 c.name) = some (c.name, type) ∧
        c.type = typeOf types c.name type := by
  induction es generalizing t with
  | nil => exact Or.inl h
  | cons e es ih =>
    cases e with
    | constraint _ => exact ih h
    | named _ _ => exact ih h
    | column name type constraints =>
      obtain ⟨hname, htype⟩ :=
        foldl_constrain_name_type constraints { name, type := typeOf types name type }
      dsimp only at hname htype
      rw [List.foldl_cons, declareColumn] at h
      generalize constraints.foldl constrain { name, type := typeOf types name type } = d
        at h hname htype
      have hdeclare := t.column?_declare d c.name
      rcases ih h with hmem | ⟨hnone, type', hfind, hc⟩
      · unfold Table.declare at hmem
        split at hmem
        · exact Or.inl hmem
        · next hnew =>
          rcases List.mem_append.mp hmem with hmem | hmem
          · exact Or.inl hmem
          · obtain rfl := List.mem_singleton.mp hmem
            refine Or.inr ⟨by simpa using hnew, type, ?_, ?_⟩
            · rw [List.filterMap_cons, Element.column?, List.find?_cons, hname]
              simp [sameName]
            · rw [htype, hname]
      · rw [hdeclare, Option.or_eq_none_iff] at hnone
        refine Or.inr ⟨hnone.1, type', ?_, hc⟩
        have hother : sameName name c.name = false := by
          rw [← Bool.not_eq_true, ← hname]
          intro hs
          simp [hs] at hnone
        simpa [List.filterMap_cons, Element.column?, List.find?_cons, hother] using hfind

theorem typed_applyConstraint (t : Table) (constraint : TableConstraint) :
    (applyConstraint t constraint).typed = t.typed := by
  cases constraint <;> simp [applyConstraint]

/-- The constraints of a table change no type. -/
theorem typed_tableOf (index : TypeIndex) (name : Text) (es : List Element) :
    (tableOf index name es).typed =
      (es.foldl (declareColumn (index.typesOf name)) ⟨name, []⟩).typed :=
  List.foldlRecOn (es.flatMap Element.constraints) applyConstraint
    (motive := fun u : Table => u.typed = _) rfl
    fun u hu constraint _ => (typed_applyConstraint u constraint).trans hu

theorem mem_tableOf {index : TypeIndex} {name : Text} (h : c ∈ (tableOf index name es).columns) :
    ∃ type, (es.filterMap Element.column?).find? (sameName ·.1 c.name) = some (c.name, type) ∧
      c.type = typeOf (index.typesOf name) c.name type := by
  have htyped := typed_tableOf index name es
  have hmem : (c.name, c.type) ∈ (tableOf index name es).typed.2 := List.mem_map_of_mem h
  rw [htyped] at hmem
  obtain ⟨d, hd, hdc⟩ := List.mem_map.mp hmem
  obtain ⟨hname, htype⟩ := Prod.mk.inj hdc
  rw [← hname, ← htype]
  rcases mem_foldl_declareColumn hd with hd | ⟨-, hd⟩
  · cases hd
  · exact hd

theorem name_tableOf (index : TypeIndex) (name : Text) (es : List Element) :
    (tableOf index name es).name = name := by
  have hdeclare : (es.foldl (declareColumn (index.typesOf name)) ⟨name, []⟩).name = name := by
    refine List.foldlRecOn es _ (motive := fun u : Table => u.name = name) rfl ?_
    intro u hu e _
    cases e with
    | column _ _ _ =>
      dsimp only [declareColumn, Table.declare]
      split <;> exact hu
    | constraint _ => exact hu
    | named _ _ => exact hu
  exact (congrArg Prod.fst (typed_tableOf index name es)).trans hdeclare

theorem tables_declarationsOf (index : TypeIndex) (ss : List Statement) :
    (declarationsOf index ss).tables =
      (ss.filterMap Statement.creates?).map fun s => tableOf index s.1 s.2 := by
  have hfold : ∀ found : Declarations, (ss.foldl (declareStatement index) found).tables =
      found.tables ++ (ss.filterMap Statement.creates?).map fun s => tableOf index s.1 s.2 := by
    induction ss with
    | nil => simp
    | cons s ss ih =>
      intro found
      rw [List.foldl_cons, ih]
      cases s <;> simp [declareStatement, List.filterMap_cons, Statement.creates?]
  exact hfold {}

/-- The spelling that a statement declares comes before the spelling of the tree. -/
theorem typeOf_eq {statement : Text} (h : types.lookup (Text.lower n) =
      ((definitions statement).find? (sameName ·.1 n)).map spelling) (type : Option TypeName) :
    typeOf types n type =
      ((declaredType? statement n).or (type.map TypeName.render)).getD unknownType := by
  unfold typeOf declaredType?
  rw [h]
  cases (definitions statement).find? (sameName ·.1 n) with
  | none => cases type <;> rfl
  | some d =>
    rw [Option.map_some, Option.map_some, Option.filter_some, spelling]
    by_cases hempty : (columnType d.2).isEmpty = true
    · cases type <;> simp [hempty]
    · by_cases hunknown : columnType d.2 = unknownType
      · cases type <;> simp [hunknown]
      · cases type <;> simp_all

/-- The text of a statement creates a table of some name. -/
def creates (n : Text) (o : Outline) : Bool := (readableTable? o).any (sameName ·.name n)

/-- Of the statements that create a table of some name the first one gives the types. -/
theorem lookup_typesOf {os : List Outline} {first : Outline} {name : Text}
    (h : os.find? (creates name) = some first) (n : Text) :
    (TypeIndex.typesOf ((os.filterMap readableTable?).foldl TypeIndex.add []) name).lookup
        (Text.lower n) =
      ((definitions first.text).find? (sameName ·.1 n)).map spelling := by
  have hcreates := List.find?_some h
  unfold creates at hcreates
  cases ht : readableTable? first with
  | none => simp [ht] at hcreates
  | some t =>
    have hindex : TypeIndex.typesOf ((os.filterMap readableTable?).foldl TypeIndex.add []) name =
        (((os.find? (creates name)).bind readableTable?).map Table.types).getD [] := by
      rw [typesOf_foldl_add, List.find?_filterMap]
      rfl
    rw [hindex, h, Option.bind_some, ht]
    exact lookup_readableTable? ht n

/-- The statements whose text creates a table. -/
def creating (os : List Outline) : List Outline := os.filter fun o => (readableTable? o).isSome

/-- The text of a script gives a table for each one in its tree, of the same name. -/
def OneForOne (ss : List Statement) (os : List Outline) : Prop :=
  List.Forall₂ (fun s o => creates s.1 o = true) (ss.filterMap Statement.creates?) (creating os)

/-- A column is the first of its name in a column list, and has the type that a statement declares
for the name; where it declares none, the one that the column list gives. -/
def TypedBy (statement : Text) (es : List Element) (c : Column) : Prop :=
  ∃ type, (es.filterMap Element.column?).find? (sameName ·.1 c.name) = some (c.name, type) ∧
    c.type = ((declaredType? statement c.name).or (type.map TypeName.render)).getD unknownType

theorem OneForOne.creates_of_getElem? {ss : List Statement} {os : List Outline} {i : Nat}
    {s : Text × List Element} {own : Outline} (h : OneForOne ss os)
    (hs : (ss.filterMap Statement.creates?)[i]? = some s) (ho : (creating os)[i]? = some own) :
    creates s.1 own = true := by
  obtain ⟨hi, rfl⟩ := List.getElem?_eq_some_iff.mp hs
  obtain ⟨hj, rfl⟩ := List.getElem?_eq_some_iff.mp ho
  exact List.Forall₂.get h hi hj

theorem find?_creating (os : List Outline) (name : Text) :
    (creating os).find? (creates name) = os.find? (creates name) := by
  have hcreates : (fun o => decide ((readableTable? o).isSome = true ∧ creates name o = true)) =
      creates name := by
    funext o
    cases h : readableTable? o <;> simp [creates, h]
  rw [creating, List.find?_filter, hcreates]

/-- The first statement that creates a table of a name does so for the first table of the name. -/
theorem OneForOne.find?_creates {ss : List Statement} {os : List Outline} {i : Nat} {own : Outline}
    {name : Text} (h : OneForOne ss os) (ho : (creating os)[i]? = some own)
    (hown : creates name own = true)
    (hfirst : ∀ j < i, ∀ s, (ss.filterMap Statement.creates?)[j]? = some s →
      sameName s.1 name = false) : os.find? (creates name) = some own := by
  obtain ⟨hi, rfl⟩ := List.getElem?_eq_some_iff.mp ho
  rw [← find?_creating]
  refine List.find?_eq_some_iff_getElem.mpr ⟨hown, i, hi, rfl, fun j hj => ?_⟩
  have hlength := h.length_eq
  have hs := List.getElem?_eq_getElem (l := ss.filterMap Statement.creates?) (i := j) (by omega)
  have hother := hfirst j hj _ hs
  have hsame := h.creates_of_getElem? hs (List.getElem?_eq_getElem (by omega))
  unfold creates at hsame ⊢
  cases ht : readableTable? (creating os)[j] with
  | none => rfl
  | some t =>
    rw [ht] at hsame
    simp_all [sameName]

end Postgres

variable {readers : Readers} {script : Text} {ss : List Postgres.Statement} {os : List Outline}

/-- Where the text of a script gives the tables of its tree one for one, the types of each table are
those of the first statement that creates a table of its name; for the first table of a name this
is the statement of its own. -/
theorem Engine.read_types (hparse : readers.parse? script = some ss)
    (hsplit : readers.splitter.outlines script = .ok os) (hone : OneForOne ss os) :
    ∃ found, Engine.postgres.read script readers = .ok found ∧
      found.tables.length = (creating os).length ∧
      ∀ (i : Nat) (t : Table) (own : Outline), found.tables[i]? = some t →
        (creating os)[i]? = some own →
        ∃ elements first, (ss.filterMap Postgres.Statement.creates?)[i]? = some (t.name, elements) ∧
          os.find? (creates t.name) = some first ∧
          ((∀ j < i, ∀ u, found.tables[j]? = some u → sameName u.name t.name = false) →
            first = own) ∧
          ∀ c ∈ t.columns, TypedBy first.text elements c := by
  have hindex := declaredTypes_of_outlines hsplit
  generalize hidx : (os.filterMap readableTable?).foldl TypeIndex.add [] = index at hindex
  refine ⟨declarationsOf index ss, ?_, ?_, ?_⟩
  · rw [Engine.read_of_parse hparse, hindex]
    rfl
  · rw [tables_declarationsOf, List.length_map, hone.length_eq]
  intro i t own ht hown
  rw [tables_declarationsOf, List.getElem?_map] at ht
  obtain ⟨⟨name, elements⟩, hcreated, rfl⟩ := Option.map_eq_some_iff.mp ht
  have hcreates : creates name own = true := hone.creates_of_getElem? hcreated hown
  have hmem : own ∈ os := List.mem_of_mem_filter (List.mem_of_getElem? hown)
  obtain ⟨first, hfind⟩ := Option.isSome_iff_exists.mp
    (List.find?_isSome.mpr ⟨own, hmem, hcreates⟩)
  have hname := Postgres.name_tableOf index name elements
  dsimp only
  rw [hname]
  refine ⟨elements, first, hcreated, hfind, fun hfirst => ?_, fun c hc => ?_⟩
  · have hown := hone.find?_creates hown hcreates fun j hj s hs => by
      have htable := hfirst j hj _ (by rw [tables_declarationsOf, List.getElem?_map, hs]; rfl)
      rwa [Postgres.name_tableOf] at htable
    exact Option.some.inj (hfind.symm.trans hown)
  · obtain ⟨type, hfirst, htype⟩ := Postgres.mem_tableOf hc
    refine ⟨type, hfirst, htype.trans ?_⟩
    rw [← hidx]
    exact typeOf_eq (lookup_typesOf hfind c.name) type

namespace Postgres

/-- Two tables with the same last name. -/
def namesakes : Text :=
  ("CREATE TABLE a.t (c integer, u UNKNOWN[2.5], key integer (a));\n" ++
    "CREATE TABLE b.t (c text, d date);").toList

theorem statements?_namesakes : statements? namesakes = some [
    .createTable "t".toList [
      .column "c".toList (some { base := "INT".toList }) [],
      .column "u".toList (some { base := "UNKNOWN".toList, arrays := ["2.5".toList] }) [],
      .column "key".toList (some { base := "INT".toList, arguments := ["A".toList] }) []],
    .createTable "t".toList [
      .column "c".toList (some { base := "TEXT".toList }) [],
      .column "d".toList (some { base := "DATE".toList }) []], .other] := by
  let token (entry : TokenKind × String) : Token := { kind := entry.1, text := entry.2.toList }
  have htokens : (Token.all? namesakes).map Token.statements = some [
      [(.word, "CREATE"), (.word, "TABLE"), (.word, "a"), (.sign, "."), (.word, "t"), (.sign, "("),
        (.word, "c"), (.word, "integer"), (.sign, ","), (.word, "u"), (.word, "UNKNOWN"),
        (.sign, "["), (.number, "2.5"), (.sign, "]"), (.sign, ","), (.word, "key"),
        (.word, "integer"), (.sign, "("), (.word, "a"), (.sign, ")"), (.sign, ")")].map token,
      [(.word, "CREATE"), (.word, "TABLE"), (.word, "b"), (.sign, "."), (.word, "t"), (.sign, "("),
        (.word, "c"), (.word, "text"), (.sign, ","), (.word, "d"), (.word, "date"),
        (.sign, ")")].map token, []] := by decide +kernel
  obtain ⟨ts, hts, hcut⟩ := Option.map_eq_some_iff.mp htokens
  rw [statements?, hts, Option.bind_eq_bind, Option.bind_some, hcut]
  rfl

theorem outlines_namesakes : ({} : Splitter).outlines namesakes = .ok [
    ⟨.create, "CREATE TABLE a.t (c integer, u UNKNOWN[2.5], key integer (a));".toList⟩,
    ⟨.create, "CREATE TABLE b.t (c text, d date);".toList⟩] :=
  eq_ok_of_toOption (by decide +kernel)

theorem oneForOne_namesakes {ss : List Statement} {os : List Outline}
    (hss : statements? namesakes = some ss) (hos : ({} : Splitter).outlines namesakes = .ok os) :
    OneForOne ss os ∧ creating os = os := by
  obtain rfl := Option.some.inj (statements?_namesakes.symm.trans hss)
  obtain rfl := Except.ok.inj (outlines_namesakes.symm.trans hos)
  have hcreating : creating [
      ⟨.create, "CREATE TABLE a.t (c integer, u UNKNOWN[2.5], key integer (a));".toList⟩,
      ⟨.create, "CREATE TABLE b.t (c text, d date);".toList⟩] = [
      ⟨.create, "CREATE TABLE a.t (c integer, u UNKNOWN[2.5], key integer (a));".toList⟩,
      ⟨.create, "CREATE TABLE b.t (c text, d date);".toList⟩] := by decide +kernel
  refine ⟨?_, hcreating⟩
  rw [OneForOne, hcreating]
  exact .cons (by decide +kernel) (.cons (by decide +kernel) .nil)

theorem read_namesakes : Engine.postgres.read namesakes = .ok { tables := [
    ⟨"t".toList, [{ name := "c".toList, type := "integer".toList },
      { name := "u".toList, type := "UNKNOWN[2.5]".toList },
      { name := "key".toList, type := "INT(A)".toList }]⟩,
    ⟨"t".toList, [{ name := "c".toList, type := "integer".toList },
      { name := "d".toList, type := "DATE".toList }]⟩] } := by
  have hindex : declaredTypes namesakes = .ok
      [("t".toList, [("c".toList, "integer".toList), ("u".toList, "UNKNOWN".toList)])] := by
    rw [declaredTypes_of_outlines outlines_namesakes]
    exact eq_ok_of_toOption (by decide +kernel)
  rw [@Engine.read_of_parse {} _ _ statements?_namesakes, hindex]
  exact eq_ok_of_toOption (by decide +kernel)

/-- A column of a table whose type is not the one that a part of its own statement spells. -/
def Misspelled (found : Declarations) (os : List Outline) (i j : Nat) : Prop :=
  ∃ t own c p rest, found.tables[i]? = some t ∧ (creating os)[i]? = some own ∧
    t.columns[j]? = some c ∧ p ∈ bodyParts own.text ∧ definitionHead? p = some (c.name, rest) ∧
    columnType rest ≠ [] ∧ c.type ≠ columnType rest

end Postgres

/-- A later table of a name has the types of the first one; what stands for no type at all counts as
not spelled, and so does what looks like the line of an index. -/
theorem Engine.read_misspelled :
    ∃ ss os found, statements? namesakes = some ss ∧
      ({} : Splitter).outlines namesakes = .ok os ∧ OneForOne ss os ∧
      Engine.postgres.read namesakes = .ok found ∧
      Misspelled found os 1 0 ∧ Misspelled found os 0 1 ∧ Misspelled found os 0 2 := by
  obtain ⟨hone, hcreating⟩ := oneForOne_namesakes statements?_namesakes outlines_namesakes
  refine ⟨_, _, _, statements?_namesakes, outlines_namesakes, hone, read_namesakes, ?_, ?_, ?_⟩
  · exact ⟨_, _, _, "c text".toList, "text".toList, rfl, by rw [hcreating]; rfl, rfl,
      by decide +kernel⟩
  · exact ⟨_, _, _, "u UNKNOWN[2.5]".toList, "UNKNOWN[2.5]".toList, rfl, by rw [hcreating]; rfl,
      rfl, by decide +kernel⟩
  · exact ⟨_, _, _, "key integer (a)".toList, "integer (a)".toList, rfl, by rw [hcreating]; rfl,
      rfl, by decide +kernel⟩

/-- The first table of the name has the type that its own statement spells. -/
theorem Engine.read_types_first :
    ∃ found t c, Engine.postgres.read namesakes = .ok found ∧ found.tables[0]? = some t ∧
      c ∈ t.columns ∧ c.name = "c".toList ∧ c.type = "integer".toList := by
  obtain ⟨hone, hcreating⟩ := oneForOne_namesakes statements?_namesakes outlines_namesakes
  obtain ⟨found, hread, -, htables⟩ :=
    @Engine.read_types {} namesakes _ _ statements?_namesakes outlines_namesakes hone
  obtain rfl := Except.ok.inj (read_namesakes.symm.trans hread)
  rw [hcreating] at htables
  obtain ⟨es, first, -, -, hfirst, htyped⟩ := htables 0 _ _ rfl rfl
  obtain rfl := hfirst (fun j hj => absurd hj (Nat.not_lt_zero j))
  obtain ⟨type, -, htype⟩ := htyped _ List.mem_cons_self
  have hspelled : declaredType?
      "CREATE TABLE a.t (c integer, u UNKNOWN[2.5], key integer (a));".toList "c".toList =
      some "integer".toList := by decide +kernel
  rw [hspelled] at htype
  exact ⟨_, _, _, hread, rfl, List.mem_cons_self, rfl, htype⟩

end SchemaDiagram
