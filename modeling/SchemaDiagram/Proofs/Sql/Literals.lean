import SchemaDiagram.Proofs.Sql.Lines

/-!
Literals as defaults of columns. Commas, parentheses and quotes in a literal hide no definition that
comes after it, as long as no quote stands right behind an escaped backslash: the scan looks back by
one character only and takes such a quote for an escaped one.
-/
namespace SchemaDiagram.Sql

variable {c : Char} {d : Int}

/-- A piece of the content of a literal in single quotes. -/
inductive LiteralPiece where
  | plain (c : Char) (hquote : c ≠ '\'') (hslash : c ≠ '\\')
  | doubledQuote
  | escaped (c : Char)

namespace LiteralPiece

def print : LiteralPiece → Text
  | plain c _ _ => [c]
  | doubledQuote => ['\'', '\'']
  | escaped c => ['\\', c]

/-- The last character of the piece is a backslash. -/
def endsInSlash : LiteralPiece → Bool
  | plain _ _ _ | doubledQuote => false
  | escaped c => c == '\\'

/-- A quote comes next when these pieces and the end of the literal are left. -/
def quoteIsNext : List LiteralPiece → Bool
  | [] | doubledQuote :: _ => true
  | plain _ _ _ :: _ | escaped _ :: _ => false

/-- No quote stands right behind an escaped backslash. -/
def SlashesApart : List LiteralPiece → Prop
  | [] => True
  | p :: ps => (p.endsInSlash = true → quoteIsNext ps = false) ∧ SlashesApart ps

instance decidableSlashesApart : (ps : List LiteralPiece) → Decidable (SlashesApart ps)
  | [] => inferInstanceAs (Decidable True)
  | _ :: ps =>
    have := decidableSlashesApart ps
    inferInstanceAs (Decidable (_ ∧ _))

end LiteralPiece

/-- A literal in single quotes. -/
def literal (ps : List LiteralPiece) : Text := '\'' :: ps.flatMap LiteralPiece.print ++ ['\'']

namespace Scan

variable {slash : Bool} {ps : List LiteralPiece}

/-- The scan in a literal, right behind a backslash or not. -/
def inLiteral (d : Int) (slash : Bool) : Scan := ⟨some '\'', slash, d⟩

/-- Only a quote that stands behind no backslash leads out of a literal. -/
theorem next_inLiteral (h : c = '\'' → slash = true) :
    (inLiteral d slash).next c = inLiteral d (c == '\\') := by
  by_cases hopen : (isQuote c && !slash) = true
  · have hne : '\'' ≠ c := by
      rintro rfl
      simp [h rfl] at hopen
    simp [next, inLiteral, hopen, toggle, hne]
  · simp [next, inLiteral, hopen]

theorem over_inLiteral (hd : 0 ≤ d) (h : c = '\'' → slash = true) :
    Over (inLiteral d slash) [c] (inLiteral d (c == '\\')) := by
  refine Over.single (next_inLiteral h) hd ?_
  rintro ⟨-, htop⟩
  cases htop

/-- No quote comes next behind a backslash. -/
theorem eq_false_of_quoteIsNext (h : slash = true → LiteralPiece.quoteIsNext ps = false)
    (hq : LiteralPiece.quoteIsNext ps = true) : slash = false := by
  rw [Bool.eq_false_iff]
  intro hslash
  rw [h hslash] at hq
  cases hq

theorem over_piece (hd : 0 ≤ d) (p : LiteralPiece)
    (h : slash = true → LiteralPiece.quoteIsNext (p :: ps) = false) :
    Over (inLiteral d slash) p.print (inLiteral d p.endsInSlash) := by
  cases p with
  | plain c hquote hslash =>
    have hplain : Over (inLiteral d slash) [c] (inLiteral d (c == '\\')) :=
      over_inLiteral hd fun hc => absurd hc hquote
    rwa [beq_false_of_ne hslash] at hplain
  | doubledQuote =>
    obtain rfl := eq_false_of_quoteIsNext h rfl
    exact (over_close rfl hd).append (over_open rfl hd)
  | escaped c =>
    have hslash : Over (inLiteral d slash) ['\\'] (inLiteral d true) :=
      over_inLiteral hd (by simp)
    exact hslash.append (over_inLiteral hd fun _ => rfl)

theorem over_content (hd : 0 ≤ d) (h : LiteralPiece.SlashesApart ps)
    (hslash : slash = true → LiteralPiece.quoteIsNext ps = false) :
    Over (inLiteral d slash) (ps.flatMap LiteralPiece.print ++ ['\'']) (level d) := by
  induction ps generalizing slash with
  | nil =>
    obtain rfl := eq_false_of_quoteIsNext hslash rfl
    exact over_close rfl hd
  | cons p ps ih =>
    obtain ⟨hp, hps⟩ := h
    rw [List.flatMap_cons, List.append_assoc]
    exact (over_piece hd p hslash).append (ih hps hp)

/-- A scan comes out of a literal as it went in. -/
theorem over_literal (hd : 0 ≤ d) (h : LiteralPiece.SlashesApart ps) :
    Over (level d) (literal ps) (level d) :=
  (over_open rfl hd).append (over_content hd h (by simp))

end Scan

/-- A column of short texts with a literal as its default. -/
structure LiteralColumn where
  name : Text
  nonempty : name ≠ []
  word : ∀ c ∈ name, Text.isWord c = true
  content : List LiteralPiece

namespace LiteralColumn

def type : Text := "VARCHAR(20)".toList

def print (c : LiteralColumn) : Text :=
  tick c.name ++ (spaced [type, "DEFAULT".toList] ++ ' ' :: literal c.content)

theorem partKind_print (c : LiteralColumn) : partKind c.print = .column := rfl

theorem over_print {c : LiteralColumn} (h : LiteralPiece.SlashesApart c.content) :
    Scan.Over (Scan.level 0) c.print (Scan.level 0) := by
  have hname : Scan.Over (Scan.level 0) (tick c.name) (Scan.level 0) :=
    Scan.over_quote rfl (by decide) fun d hd => Scan.isStill_of_isWord (c.word d hd)
  have htype : Scan.Over (Scan.level 0) type (Scan.level 0) :=
    TypeWord.Valid.over_spelling (v := ⟨"VARCHAR".toList, some ["20".toList]⟩) (by decide)
      (by decide)
  have hkeyword : Scan.Over (Scan.level 0) "DEFAULT".toList (Scan.level 0) :=
    Scan.over_plain rfl (by decide) (by decide)
  have hblank : Scan.Over (Scan.level 0) [' '] (Scan.level 0) :=
    Scan.over_mark rfl (by decide) rfl (by decide)
  have hwords := Scan.over_spaced (d := 0) (by decide)
    (List.forall_mem_cons.mpr ⟨htype, List.forall_mem_singleton.mpr hkeyword⟩)
  exact hname.append (hwords.append (hblank.append (Scan.over_literal (by decide) h)))

theorem isTrim_print (c : LiteralColumn) : IsTrim c.print := by
  have hcloses : Closes (literal c.content) := ⟨_, '\'', rfl, by decide⟩
  have hrest := (hcloses.after [' ']).after (spaced [type, "DEFAULT".toList])
  exact ⟨'\x60', _, rfl, by decide, hrest.after (c.name ++ ['\x60'])⟩

theorem column?_print (c : LiteralColumn) :
    column? c.print = some (columnOf c.print c.name type) := by
  have hclose : '\x60' ∉ c.name := fun hm => absurd (c.word _ hm) (by decide)
  have hname (r : Text) : name? (tick c.name ++ r) = some (tick c.name, r) :=
    Quotes.backticks.name?_around_of_not_mem c.nonempty hclose
  have hhead : definitionHead? c.print =
      some (c.name, type ++ ' ' :: ("DEFAULT".toList ++ ' ' :: literal c.content)) := by
    rw [definitionHead?, print, hname]
    exact congrArg (fun n => some (n, _)) (unquote_tick c.name)
  have htype :
      columnType (type ++ ' ' :: ("DEFAULT".toList ++ ' ' :: literal c.content)) = type := by
    refine columnType_append ⟨[⟨"VARCHAR".toList, some ["20".toList]⟩], by decide⟩ ?_
    exact Or.inr ⟨_, _, rfl, by decide, by decide, by simp [Ends], by decide⟩
  rw [column?, hhead]
  simp only [Option.bind_eq_bind, Option.bind_some, htype]
  rfl

variable {columns : List LiteralColumn}

/-- Columns with names of their own are all declared, whatever their literals hold, as long as no
quote stands right behind an escaped backslash. -/
theorem createTable_literals (hq : ∀ c ∈ columns, LiteralPiece.SlashesApart c.content)
    (hn : (columns.map fun c => Text.lower c.name).Nodup) (table : QualifiedName) (rest : Text) :
    ∃ t, createTable (creation table (columns.map print) rest) = .ok (some t) ∧
      t.name = table.name.word ∧
      t.columns.map (fun c => (c.name, c.type)) = columns.map fun c => (c.name, type) := by
  have hparts : ∀ p ∈ columns.map print,
      Scan.Over (Scan.level 0) p (Scan.level 0) ∧ IsTrim p := by
    intro p hp
    obtain ⟨c, hc, rfl⟩ := List.mem_map.mp hp
    exact ⟨over_print (hq c hc), c.isTrim_print⟩
  have hkinds : ∀ p ∈ columns.map print, partKind p = .column := by
    intro p hp
    obtain ⟨c, -, rfl⟩ := List.mem_map.mp hp
    exact c.partKind_print
  have hnames : ((columns.map fun c => columnOf c.print c.name type).map
      fun c => Text.lower c.name).Nodup := by
    simpa only [List.map_map, Function.comp_def, columnOf_name_type] using hn
  have hdeclare := foldl_declarePart_map (u := ⟨table.name.word, []⟩) print
    (fun c => columnOf c.print c.name type) (fun c _ => c.partKind_print)
    (fun c _ => c.column?_print) hnames
  refine ⟨_, createTable_eq_some_iff.mpr ⟨_, _, body?_creation hparts rest, rfl⟩, ?_⟩
  rw [tableOf, foldl_applyPart_columns hkinds, hdeclare]
  refine ⟨rfl, ?_⟩
  simp only [List.nil_append, List.map_map, Function.comp_def, columnOf_name_type]

/-- A table that is named by one letter. -/
def short : QualifiedName := ⟨[], ⟨.backticks, ['t'], by decide, by decide⟩⟩

/-- A column that is named by one letter. -/
def ofLetter (a : Char) (ha : Text.isWord a = true) (content : List LiteralPiece) :
    LiteralColumn :=
  ⟨[a], List.cons_ne_nil a [], List.forall_mem_singleton.mpr ha, content⟩

theorem createTable_literals_quoted :
    let first := ofLetter 'a' rfl [
      .plain '"' (by decide) (by decide), .plain ',' (by decide) (by decide), .escaped '\'',
      .plain '(' (by decide) (by decide), .doubledQuote, .escaped '\\',
      .plain ')' (by decide) (by decide)]
    let second := ofLetter 'b' rfl []
    creation short ([first, second].map print) [] =
      ("CREATE TABLE `t` (`a` VARCHAR(20) DEFAULT '\",\\'(''\\\\)', " ++
        "`b` VARCHAR(20) DEFAULT '')").toList ∧
    (∀ c ∈ [first, second], LiteralPiece.SlashesApart c.content) ∧
    ([first, second].map fun c => Text.lower c.name).Nodup ∧
    ∃ t, createTable (creation short ([first, second].map print) []) = .ok (some t) ∧
      t.name = ['t'] ∧
      t.columns.map (fun c => (c.name, c.type)) = [(['a'], type), (['b'], type)] := by
  intro first second
  have hslashes : ∀ c ∈ [first, second], LiteralPiece.SlashesApart c.content :=
    List.forall_mem_cons.mpr ⟨by decide, List.forall_mem_singleton.mpr (by decide)⟩
  have hnames : ([first, second].map fun c => Text.lower c.name).Nodup := by decide
  exact ⟨by decide, hslashes, hnames, createTable_literals hslashes hnames short []⟩

/-- Two escaped backslashes hide the definition between them. -/
theorem createTable_hidden_definition :
    let columns := [ofLetter 'a' rfl [.escaped '\\'], ofLetter 'b' rfl [.escaped '\\']]
    creation short (columns.map print) [] =
      "CREATE TABLE `t` (`a` VARCHAR(20) DEFAULT '\\\\', `b` VARCHAR(20) DEFAULT '\\\\')".toList ∧
    (columns.map fun c => Text.lower c.name).Nodup ∧
    createTable (creation short (columns.map print) []) = .ok (some ⟨['t'], [
      { name := ['a'], type := type, defaultValue := some ['\\', '\\'] }]⟩) := by
  decide +kernel

end LiteralColumn

end SchemaDiagram.Sql
