import SchemaDiagram.Postgres.Script
import SchemaDiagram.Proofs.Sql.Definition
import SchemaDiagram.Proofs.Sql.Separators
import SchemaDiagram.Proofs.Sql.Tails

/-!
Constraints that stand anywhere among the columns. Both readers of a table first declare all of its
columns and then fold its constraints into them, so only the order among the columns and the order
among the constraints count.
-/
namespace SchemaDiagram

section Lists

variable {α β σ : Type} {as bs cs : List α}

/-- The third list holds the elements of the other two, those of each in their order. -/
inductive Interleaved : List α → List α → List α → Prop where
  | nil : Interleaved [] [] []
  | left (a : α) {as bs cs : List α} (h : Interleaved as bs cs) : Interleaved (a :: as) bs (a :: cs)
  | right (b : α) {as bs cs : List α} (h : Interleaved as bs cs) :
    Interleaved as (b :: bs) (b :: cs)

namespace Interleaved

theorem symm (h : Interleaved as bs cs) : Interleaved bs as cs := by
  induction h with
  | nil => exact nil
  | left a _ ih => exact right a ih
  | right b _ ih => exact left b ih

theorem mem (h : Interleaved as bs cs) {c : α} (hc : c ∈ cs) : c ∈ as ∨ c ∈ bs := by
  induction h with
  | nil => exact Or.inl hc
  | left a _ ih =>
    rcases List.mem_cons.mp hc with rfl | hc
    · exact Or.inl List.mem_cons_self
    · exact (ih hc).imp_left (List.mem_cons_of_mem a)
  | right b _ ih =>
    rcases List.mem_cons.mp hc with rfl | hc
    · exact Or.inr List.mem_cons_self
    · exact (ih hc).imp_right (List.mem_cons_of_mem b)

/-- A fold that the elements of the second list leave alone is a fold over the first one. -/
theorem foldl_eq {f : σ → α → σ} (h : Interleaved as bs cs) (hb : ∀ b ∈ bs, ∀ s, f s b = s)
    (s : σ) : cs.foldl f s = as.foldl f s := by
  induction h generalizing s with
  | nil => rfl
  | left a _ ih => exact ih hb (f s a)
  | right b _ ih =>
    obtain ⟨hb, hbs⟩ := List.forall_mem_cons.mp hb
    rw [List.foldl_cons, hb]
    exact ih hbs s

theorem flatMap_eq {f : α → List β} (h : Interleaved as bs cs) (hb : ∀ b ∈ bs, f b = []) :
    cs.flatMap f = as.flatMap f := by
  induction h with
  | nil => rfl
  | left a _ ih => rw [List.flatMap_cons, ih hb, List.flatMap_cons]
  | right b _ ih =>
    obtain ⟨hb, hbs⟩ := List.forall_mem_cons.mp hb
    rw [List.flatMap_cons, hb, List.nil_append, ih hbs]

end Interleaved
end Lists

namespace Sql

variable {s : Scan} {t u name head : Text} {ps cs ks : List Text}

namespace Scan

/-- The depth of the scan never falls below zero. -/
def StaysUp (s : Scan) (t : Text) : Prop := ∀ n ≤ t.length, 0 ≤ (s.after (t.take n)).depth

theorem StaysUp.append (h : s.StaysUp t) (hu : (s.after t).StaysUp u) : s.StaysUp (t ++ u) := by
  intro n hn
  rw [List.take_append, after_append]
  by_cases hle : n ≤ t.length
  · rw [Nat.sub_eq_zero_of_le hle]
    exact h n hle
  · rw [List.take_of_length_le (by omega)]
    refine hu _ ?_
    rw [List.length_append] at hn
    omega

/-- Behind a part the comma makes the scan forget a backslash, and the blank changes nothing. -/
theorem staysUp_gap (escaped : Bool) :
    ({ escaped } : Scan).StaysUp [',', ' '] ∧ ({ escaped } : Scan).after [',', ' '] = {} := by
  unfold StaysUp
  cases escaped <;> decide

end Scan

/-- A part in which no parenthesis outside quotes closes one that was opened before the part. -/
structure IsBalanced (p : Text) : Prop extends IsPart p where
  level : ∀ n ≤ p.length, 0 ≤ balance p 0 n

instance (p : Text) : Decidable (IsBalanced p) :=
  decidable_of_iff (p ≠ [] ∧ Text.trim p = p ∧ openQuote p 0 p.length = none ∧
      balance p 0 p.length = 0 ∧ separators p = [] ∧ ∀ n ≤ p.length, 0 ≤ balance p 0 n)
    ⟨fun ⟨hne, ht, hb, hs, hw, hl⟩ => ⟨⟨hne, ht, hb, hs, hw⟩, hl⟩,
      fun h => ⟨h.nonempty, h.trimmed, h.bare, h.settled, h.whole, h.level⟩⟩

theorem IsBalanced.staysUp {p : Text} (h : IsBalanced p) : ({} : Scan).StaysUp p := by
  intro n hn
  have hscan : ({} : Scan).after (p.take n) = Scan.placed p 0 n := listScan_eq_placed hn
  rw [hscan]
  exact h.level n hn

theorem staysUp_join (h : ∀ p ∈ ps, IsBalanced p) :
    ({} : Scan).StaysUp (Text.join [',', ' '] ps) ∧
      ∃ escaped, ({} : Scan).after (Text.join [',', ' '] ps) = { escaped } := by
  fun_induction Text.join [',', ' '] ps with
  | case1 => exact ⟨by unfold Scan.StaysUp; decide, false, rfl⟩
  | case2 p =>
    have hp := h p (by simp)
    exact ⟨hp.staysUp, hp.staysWhole.after_eq⟩
  | case3 p ps _ ih =>
    obtain ⟨hp, hps⟩ := List.forall_mem_cons.mp h
    obtain ⟨hup, hend⟩ := ih hps
    obtain ⟨escaped, hafter⟩ := hp.staysWhole.after_eq
    obtain ⟨hgap, hgapAfter⟩ := Scan.staysUp_gap escaped
    have hfirst : ({} : Scan).after (p ++ [',', ' ']) = {} := by
      rw [Scan.after_append, hafter, hgapAfter]
    constructor
    · refine Scan.StaysUp.append (hp.staysUp.append ?_) ?_
      · rwa [hafter]
      · rwa [hfirst]
    · rwa [Scan.after_append, hfirst]

theorem body?_join_of_balanced (h : ∀ p ∈ ps, IsBalanced p) (rest : Text) :
    Scan.body? { depth := 1 } (Text.join [',', ' '] ps ++ ')' :: rest) =
      some (Text.join [',', ' '] ps, rest) := by
  obtain ⟨hup, escaped, hafter⟩ := staysUp_join h
  have hdepth : 0 ≤ ({} : Scan).depth := Int.le_refl 0
  refine (Scan.body?_within_iff hdepth).mpr ⟨rfl, hup, ?_⟩
  rw [hafter]
  rfl

/-- The text of a statement with some parts between the parentheses. -/
def statementOf (head : Text) (ps : List Text) (tail : Text) : Text :=
  head ++ '(' :: (Text.join [',', ' '] ps ++ ')' :: tail)

theorem createTable_statementOf (hhead : createHead? (head ++ ['(']) = some (name, []))
    (h : ∀ p ∈ ps, IsBalanced p) (tail : Text) :
    createTable (statementOf head ps tail) = .ok (some (tableOf name ps)) := by
  have hread := createHead?_append hhead (Text.join [',', ' '] ps ++ ')' :: tail)
  rw [List.append_assoc, List.singleton_append, List.nil_append] at hread
  have hparts : parts (Text.join [',', ' '] ps) = ps := parts_join_of_staysWhole fun p hp =>
    ⟨(h p hp).staysWhole, (h p hp).nonempty, (h p hp).trimmed⟩
  rw [createTable, statementOf, hread]
  simp only [body?_join_of_balanced h tail, hparts]

/-- Of interleaved parts, those that declare columns count first, then the others. -/
theorem tableOf_interleaved (hc : ∀ p ∈ cs, partKind p = .column)
    (hk : ∀ p ∈ ks, partKind p ≠ .column) (h : Interleaved cs ks ps) (name : Text) :
    tableOf name ps = ks.foldl applyPart (cs.foldl declarePart { name }) := by
  have hcolumns : ∀ p ∈ cs, ∀ t, applyPart t p = t := by
    intro p hp t
    rw [applyPart, hc p hp]
  rw [tableOf, h.foldl_eq fun p hp t => declarePart_of_ne (hk p hp) t, h.symm.foldl_eq hcolumns]

end Sql

namespace Postgres

variable {cs ks es : List Element}

/-- The element declares a column. -/
def Element.isColumn : Element → Bool
  | column _ _ _ => true
  | constraint _ | named _ _ => false

theorem declareColumn_of_constraint {e : Element} (h : e.isColumn = false)
    (types : List (Text × Text)) (t : Table) : declareColumn types t e = t := by
  cases e with
  | column => cases h
  | constraint | named => rfl

theorem constraints_of_column {e : Element} (h : e.isColumn = true) : e.constraints = [] := by
  cases e with
  | column => rfl
  | constraint | named => cases h

theorem tableOf_interleaved (hc : ∀ e ∈ cs, e.isColumn = true) (hk : ∀ e ∈ ks, e.isColumn = false)
    (h : Interleaved cs ks es) (index : Sql.TypeIndex) (name : Text) :
    tableOf index name es = (ks.flatMap Element.constraints).foldl applyConstraint
      (cs.foldl (declareColumn (index.typesOf name)) ⟨name, []⟩) := by
  have hskip : ∀ e ∈ ks, ∀ t, declareColumn (index.typesOf name) t e = t :=
    fun e he t => declareColumn_of_constraint (hk e he) _ t
  rw [tableOf, h.foldl_eq hskip, h.symm.flatMap_eq fun e he => constraints_of_column (hc e he)]

end Postgres

open Sql

/-- Both readers give the same table wherever the constraints stand among the columns. -/
theorem tables_interleaved :
    (∀ {head name : Text} {cs ks ps qs : List Text},
      createHead? (head ++ ['(']) = some (name, []) →
      (∀ p ∈ cs, partKind p = .column) → (∀ p ∈ ks, partKind p ≠ .column) →
      (∀ p ∈ cs ++ ks, IsBalanced p) → Interleaved cs ks ps → Interleaved cs ks qs →
      ∀ tail, ∃ t, createTable (statementOf head ps tail) = .ok (some t) ∧
        createTable (statementOf head qs tail) = .ok (some t)) ∧
    ∀ (index : TypeIndex) (name : Text) {cs ks es fs : List Postgres.Element},
      (∀ e ∈ cs, e.isColumn = true) → (∀ e ∈ ks, e.isColumn = false) →
      Interleaved cs ks es → Interleaved cs ks fs →
      Postgres.tableOf index name es = Postgres.tableOf index name fs := by
  constructor
  · intro head name cs ks ps qs hhead hc hk hp hps hqs tail
    have hread {rs : List Text} (hrs : Interleaved cs ks rs) :
        createTable (statementOf head rs tail) =
          .ok (some (ks.foldl applyPart (cs.foldl declarePart { name }))) := by
      rw [← tableOf_interleaved hc hk hrs]
      exact createTable_statementOf hhead (fun p hm => hp p (List.mem_append.mpr (hrs.mem hm))) tail
    exact ⟨_, hread hps, hread hqs⟩
  · intro index name cs ks es fs hc hk hes hfs
    rw [Postgres.tableOf_interleaved hc hk hes, Postgres.tableOf_interleaved hc hk hfs]

theorem tables_interleaved_wine :
    let columns := ["id INT".toList, "s CHAR(2) DEFAULT ')'".toList]
    let constraints := ["CHECK (s > (0))".toList, "PRIMARY KEY (id)".toList]
    let first := ["CHECK (s > (0))".toList, "PRIMARY KEY (id)".toList, "id INT".toList,
      "s CHAR(2) DEFAULT ')'".toList]
    let second := ["id INT".toList, "CHECK (s > (0))".toList, "s CHAR(2) DEFAULT ')'".toList,
      "PRIMARY KEY (id)".toList]
    createHead? ("CREATE TABLE wine".toList ++ ['(']) = some ("wine".toList, []) ∧
    (∀ p ∈ columns, partKind p = .column) ∧ (∀ p ∈ constraints, partKind p ≠ .column) ∧
    (∀ p ∈ columns ++ constraints, IsBalanced p) ∧
    Interleaved columns constraints first ∧ Interleaved columns constraints second ∧
    (∃ t, createTable (statementOf "CREATE TABLE wine".toList first []) = .ok (some t) ∧
      createTable (statementOf "CREATE TABLE wine".toList second []) = .ok (some t)) ∧
    Postgres.tableOf [] "wine".toList
        [.constraint (.primaryKey ["id".toList]), .column "id".toList none []] =
      Postgres.tableOf [] "wine".toList
        [.column "id".toList none [], .constraint (.primaryKey ["id".toList])] := by
  intro columns constraints first second
  have hhead : createHead? ("CREATE TABLE wine".toList ++ ['(']) = some ("wine".toList, []) := by
    decide +kernel
  have hcolumns : ∀ p ∈ columns, partKind p = .column := by decide +kernel
  have hconstraints : ∀ p ∈ constraints, partKind p ≠ .column := by decide +kernel
  have hbalanced : ∀ p ∈ columns ++ constraints, IsBalanced p := by decide +kernel
  have hfirst : Interleaved columns constraints first :=
    .right _ (.right _ (.left _ (.left _ .nil)))
  have hsecond : Interleaved columns constraints second :=
    .left _ (.right _ (.left _ (.right _ .nil)))
  obtain ⟨htexts, htrees⟩ := tables_interleaved
  refine ⟨hhead, hcolumns, hconstraints, hbalanced, hfirst, hsecond, ?_, ?_⟩
  · exact htexts hhead hcolumns hconstraints hbalanced hfirst hsecond []
  · let column : Postgres.Element := .column "id".toList none []
    let key : Postgres.Element := .constraint (.primaryKey ["id".toList])
    have hkeyFirst : Interleaved [column] [key] [key, column] := .right _ (.left _ .nil)
    have hkeyLast : Interleaved [column] [key] [column, key] := .left _ (.right _ .nil)
    exact htrees [] "wine".toList (by decide) (by decide) hkeyFirst hkeyLast

end SchemaDiagram
