import SchemaDiagram.Proofs.Schema.Building
import SchemaDiagram.Proofs.Schema.Frame

/-!
Batches one after the other. Where the keys of the later scripts name none of the earlier tables,
the later scripts add to these what they give on their own.
-/
namespace SchemaDiagram

variable {s more a b : Schema} {name : Text} {engines : List Engine} {readers : Readers}
  {script : Text} {scripts xs ys : List Text} {found : Declarations} {recovered : List ForeignKey}

namespace Schema

/-- No table agrees with the name in lower case. -/
def Lacks (s : Schema) (name : Text) : Prop := ∀ t ∈ s, Text.lower t.name ≠ Text.lower name

instance (s : Schema) (name : Text) : Decidable (s.Lacks name) := List.decidableBAll _ s

/-- A name that no earlier table has means among all tables what it means among the later ones. -/
theorem position?_append (h : s.Lacks name) :
    (s ++ more).position? name = (more.position? name).map (· + s.length) := by
  have hcase : s.findIdx? (fun t => sameName t.name name) = none := by
    rw [List.findIdx?_eq_none_iff]
    intro t ht
    simpa [sameName] using h t ht
  have hexact : s.findIdx? (·.name == name) = none := by
    rw [List.findIdx?_eq_none_iff]
    intro t ht
    have hne : t.name ≠ name := fun he => h t ht (congrArg Text.lower he)
    simpa using hne
  simp only [position?, List.findIdx?_append, hcase, hexact, Option.none_or]
  cases more.findIdx? (·.name == name) <;> rfl

theorem changeTable_append {change : Table → Table} (h : s.Lacks name) :
    (s ++ more).changeTable name change = s ++ more.changeTable name change := by
  unfold changeTable
  rw [position?_append h]
  cases more.position? name with
  | none => rfl
  | some i =>
    simp only [Option.map_some]
    induction s with
    | nil => rfl
    | cons t s ih =>
      have ih := ih fun u hu => h u (List.mem_cons_of_mem t hu)
      rw [List.length_cons, ← Nat.add_assoc, List.cons_append, List.modify_succ_cons, ih,
        List.cons_append]

/-- Changes of tables that are all named among the later ones leave the earlier ones alone. -/
theorem foldl_changeTable_append {α : Type} {table : α → Text} {change : α → Table → Table}
    {keys : List α} (h : ∀ k ∈ keys, s.Lacks (table k)) :
    keys.foldl (fun s k => s.changeTable (table k) (change k)) (s ++ more) =
      s ++ keys.foldl (fun s k => s.changeTable (table k) (change k)) more := by
  induction keys generalizing more with
  | nil => rfl
  | cons k keys ih =>
    obtain ⟨hk, hkeys⟩ := List.forall_mem_cons.mp h
    rw [List.foldl_cons, changeTable_append hk, ih hkeys, List.foldl_cons]

/-- The keys that a script declares and those that a second look finds name no table of these. -/
structure Apart (s : Schema) (found : Declarations) (recovered : List ForeignKey) : Prop where
  primary : ∀ k ∈ found.primaryKeys, s.Lacks k.table
  foreign : ∀ k ∈ found.foreignKeys, s.Lacks k.table
  recovered : ∀ k ∈ recovered, s.Lacks k.table

theorem extend_append (more : Schema) (h : s.Apart found recovered) :
    (s ++ more).extend found recovered = s ++ more.extend found recovered := by
  simp only [extend, applyPrimaryKeys, applyForeignKeys, List.append_assoc]
  rw [foldl_changeTable_append h.primary, foldl_changeTable_append h.foreign,
    foldl_changeTable_append h.recovered]

/-- No key of a script that can be read names a table of the schema. -/
def Unnamed (s : Schema) (script : Text) (readers : Readers := {}) : Prop :=
  ∀ engine found recovered, Engine.pick Engine.all (Dialect.detect script) = .ok engine →
    engine.read script readers = .ok found → engine.recover script readers = .ok recovered →
    s.Apart found recovered

theorem unnamed_of_read {engine : Engine}
    (hp : Engine.pick Engine.all (Dialect.detect script) = .ok engine)
    (hr : engine.read script readers = .ok found)
    (hs : engine.recover script readers = .ok recovered) (h : s.Apart found recovered) :
    s.Unnamed script readers := by
  intro engine' found' recovered' hp' hr' hs'
  obtain rfl := Except.ok.inj (hp.symm.trans hp')
  obtain rfl := Except.ok.inj (hr.symm.trans hr')
  obtain rfl := Except.ok.inj (hs.symm.trans hs')
  exact h

theorem ofScripts_of_read {engine : Engine}
    (hp : Engine.pick Engine.all (Dialect.detect script) = .ok engine)
    (hr : engine.read script readers = .ok found)
    (hs : engine.recover script readers = .ok recovered) :
    ofScripts [script] readers = .ok (extend [] found recovered) := by
  simp only [ofScripts_eq, addAll_cons, addScript, Building.addScript_of_read hp hr hs]
  rfl

theorem addScript_append (h : s.Unnamed script readers) :
    (s ++ more).addScript Engine.all script readers =
      (more.addScript Engine.all script readers).map fun (after, count) => (s ++ after, count) := by
  unfold addScript
  cases hp : Engine.pick Engine.all (Dialect.detect script) with
  | error fault =>
    simp only [Building.addScript_of_pick hp]
    rfl
  | ok engine =>
    cases hr : engine.read script readers with
    | error fault =>
      simp only [Building.addScript_of_fault hp hr]
      cases fault.isSkipped <;> rfl
    | ok found =>
      obtain ⟨recovered, hs⟩ := Engine.recover_of_read hr
      have hextend := extend_append more (h engine found recovered hp hr hs)
      simp only [Building.addScript_of_read hp hr hs, hextend]
      rfl

/-- Scripts that name none of the earlier tables do with them what they do without them. -/
theorem addAll_append_of_unnamed (more : Schema)
    (h : ∀ script ∈ scripts, s.Unnamed script readers) :
    (s ++ more).addAll scripts readers = (s ++ ·) <$> more.addAll scripts readers := by
  induction scripts generalizing more with
  | nil => rfl
  | cons script scripts ih =>
    obtain ⟨hscript, hscripts⟩ := List.forall_mem_cons.mp h
    rw [addAll_cons, addAll_cons, addScript_append hscript]
    cases more.addScript Engine.all script readers with
    | error fault => rfl
    | ok outcome => exact ih _ hscripts

theorem ofScripts_append_of_unnamed (hx : ofScripts xs readers = .ok a)
    (hy : ofScripts ys readers = .ok b) (h : ∀ script ∈ ys, a.Unnamed script readers) :
    ofScripts (xs ++ ys) readers = .ok (a ++ b) := by
  have hrest := addAll_append_of_unnamed [] h
  rw [ofScripts_eq] at hx hy ⊢
  rw [List.append_nil, hy] at hrest
  rw [addAll_append, hx]
  exact hrest

/-- One batch after another gives the tables of both where the keys of the second batch name no
table of the first; and where none names a table of the other, their order makes no difference but
to the order of the tables. -/
theorem ofScripts_append (hx : ofScripts xs readers = .ok a) (hy : ofScripts ys readers = .ok b)
    (h : ∀ script ∈ ys, a.Unnamed script readers) :
    ofScripts (xs ++ ys) readers = .ok (a ++ b) ∧
      ((∀ script ∈ xs, b.Unnamed script readers) →
        ∃ c, ofScripts (ys ++ xs) readers = .ok c ∧ c.Perm (a ++ b)) := by
  refine ⟨ofScripts_append_of_unnamed hx hy h, fun h' => ?_⟩
  exact ⟨b ++ a, ofScripts_append_of_unnamed hy hx h', List.perm_append_comm⟩

/-- A key may point at a table of the other batch; it must only not be a key of one. -/
theorem ofScripts_append_pointing :
    let first : Text := "CREATE TABLE a (b INT UNSIGNED)".toList
    let second : Text := ("CREATE TABLE c (d INT UNSIGNED); " ++
      "ALTER TABLE C ADD FOREIGN KEY (D) REFERENCES a (b)").toList
    let a : Schema := [⟨"a".toList, [{ name := "b".toList, type := "INT UNSIGNED".toList }]⟩]
    let b : Schema := [⟨"c".toList, [
      { name := "d".toList, type := "INT UNSIGNED".toList
        reference := some ⟨"a".toList, "b".toList⟩ }]⟩]
    ofScripts [first] = .ok a ∧ ofScripts [second] = .ok b ∧ a.Unnamed second ∧ b.Unnamed first ∧
      ofScripts [first, second] = .ok (a ++ b) ∧
      ∃ c, ofScripts [second, first] = .ok c ∧ c.Perm (a ++ b) := by
  intro first second a b
  have hpick : ∀ script ∈ [first, second],
      Engine.pick Engine.all (Dialect.detect script) = .ok .scanner := by
    intro script hm
    have hd : ∀ script ∈ [first, second], Dialect.detect script = .mysql := by decide
    rw [hd script hm]
    rfl
  have hread : Engine.scanner.read first = .ok { tables := a } :=
    eq_ok_of_toOption (by decide +kernel)
  have hread' : Engine.scanner.read second = .ok {
      tables := [⟨"c".toList, [{ name := "d".toList, type := "INT UNSIGNED".toList }]⟩]
      foreignKeys := [⟨"C".toList, ["D".toList], "a".toList, ["b".toList], none⟩] } :=
    eq_ok_of_toOption (by decide +kernel)
  have hrecover : Engine.scanner.recover first = .ok [] :=
    eq_ok_of_toOption (by decide +kernel)
  have hrecover' : Engine.scanner.recover second =
      .ok [⟨"C".toList, ["D".toList], "a".toList, ["b".toList], none⟩] :=
    eq_ok_of_toOption (by decide +kernel)
  have hx : ofScripts [first] = .ok a := ofScripts_of_read (hpick first (by simp)) hread hrecover
  have hy : ofScripts [second] = .ok b :=
    ofScripts_of_read (hpick second (by simp)) hread' hrecover'
  have hfirst : b.Unnamed first :=
    unnamed_of_read (hpick first (by simp)) hread hrecover ⟨by simp, by simp, by simp⟩
  have hsecond : a.Unnamed second :=
    unnamed_of_read (hpick second (by simp)) hread' hrecover' ⟨by simp, by decide, by decide⟩
  have happend := ofScripts_append hx hy (List.forall_mem_singleton.mpr hsecond)
  exact ⟨hx, hy, hsecond, hfirst, happend.1, happend.2 (List.forall_mem_singleton.mpr hfirst)⟩

end Schema
end SchemaDiagram
