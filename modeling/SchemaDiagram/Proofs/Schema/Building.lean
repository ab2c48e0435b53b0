import SchemaDiagram.Batch

/-!
Building a schema, script by script. A script that is read is also looked at a second time with
success, so a step either adds all that the script declares or leaves the tables as they are.
-/
namespace SchemaDiagram

variable {engines : List Engine} {engine : Engine} {readers : Readers} {s after : Schema}
  {script : Text} {found : Declarations} {recovered : List ForeignKey} {fault : Fault}
  {answer : Except Fault Nat}

/-- An answer can be found by computing what it is without its error. -/
theorem eq_ok_of_toOption {ε α : Type} {answer : Except ε α} {a : α}
    (h : answer.toOption = some a) : answer = .ok a := by
  cases answer with
  | error fault => cases h
  | ok b => exact congrArg Except.ok (Option.some.inj h)

namespace Sql.Splitter

variable {splitter : Splitter} {cleaned message : Text} {outlines : List Outline}

theorem cleaned_of_ok (h : splitter.clean script = .ok cleaned) :
    splitter.cleaned script = .ok cleaned := by
  rw [Splitter.cleaned, h]
  rfl

theorem outlines_of_ok (hclean : splitter.clean script = .ok cleaned)
    (hsplit : splitter.split cleaned = .ok outlines) : splitter.outlines script = .ok outlines := by
  have hwhole : splitter.clean script >>= splitter.split = .ok outlines := by
    rw [hclean]
    exact hsplit
  rw [Splitter.outlines, hwhole]
  rfl

theorem outlines_of_error (h : splitter.clean script >>= splitter.split = .error message) :
    splitter.outlines script = .error (.unsplit message) := by
  rw [Splitter.outlines, h]
  rfl

/-- A script is taken apart once its comments are gone, or the splitter gives up on it. -/
theorem outlines_cases (splitter : Splitter) (script : Text) :
    (∃ message, splitter.clean script >>= splitter.split = .error message ∧
        splitter.outlines script = .error (.unsplit message)) ∨
      ∃ cleaned outlines, splitter.clean script = .ok cleaned ∧
        splitter.outlines script = .ok outlines := by
  cases hwhole : splitter.clean script >>= splitter.split with
  | error message => exact Or.inl ⟨message, rfl, outlines_of_error hwhole⟩
  | ok outlines =>
    cases hclean : splitter.clean script with
    | error message =>
      rw [hclean] at hwhole
      cases hwhole
    | ok cleaned =>
      rw [hclean] at hwhole
      exact Or.inr ⟨cleaned, outlines, rfl, outlines_of_ok hclean hwhole⟩

end Sql.Splitter

theorem Sql.declaredTypes_of_outlines {splitter : Splitter} {outlines : List Outline}
    (h : splitter.outlines script = .ok outlines) : declaredTypes script splitter =
      .ok ((outlines.filterMap readableTable?).foldl TypeIndex.add []) := by
  rw [declaredTypes, h]
  rfl

theorem Sql.declaredTypes_of_error {splitter : Splitter}
    (h : splitter.outlines script = .error fault) :
    declaredTypes script splitter = .error fault := by
  rw [declaredTypes, h]
  rfl

/-- What a PostgreSQL script declares is told by its statements and the types that it spells. -/
theorem Postgres.declarations_eq_ok {splitter : Sql.Splitter}
    {parse? : Text → Option (List Statement)} {breaksOff? : Text → Option Text}
    (h : declarations script splitter parse? breaksOff? = .ok found) :
    ∃ ss index, parse? script = some ss ∧ Sql.declaredTypes script splitter = .ok index ∧
      found = declarationsOf index ss := by
  unfold declarations at h
  split at h
  · next ss hparse =>
    cases hindex : Sql.declaredTypes script splitter with
    | error fault => simp [hindex, Except.map] at h
    | ok index =>
      simp only [hindex, Except.map, Except.ok.injEq] at h
      exact ⟨ss, index, hparse, rfl, h.symm⟩
  · cases h
  · cases h

namespace Engine

variable {cleaned : Text} {outlines : List Sql.Outline}

theorem read_of_outlines (h : readers.splitter.outlines script = .ok outlines) :
    scanner.read script readers = outlines.foldlM Sql.declareStatement {} := by
  rw [read, Sql.declarations, h]
  rfl

theorem read_of_outlines_error (h : readers.splitter.outlines script = .error fault) :
    scanner.read script readers = .error fault := by
  rw [read, Sql.declarations, h]
  rfl

/-- The scanner reads the statements that a script is split into without its comments. -/
theorem read_of_split (hclean : readers.splitter.clean script = .ok cleaned)
    (hsplit : readers.splitter.split cleaned = .ok outlines) :
    scanner.read script readers = outlines.foldlM Sql.declareStatement {} :=
  read_of_outlines (Sql.Splitter.outlines_of_ok hclean hsplit)

/-- The PostgreSQL engine reads what the statements of a script declare, with the types that the
script spells. -/
theorem read_of_parse {ss : List Postgres.Statement} (h : readers.parse? script = some ss) :
    postgres.read script readers =
      (Sql.declaredTypes script readers.splitter).map (Postgres.declarationsOf · ss) := by
  simp only [read, Postgres.declarations, h]

/-- A script without statements is rejected, or reading it breaks off. -/
theorem read_of_parse_none (h : readers.parse? script = none) : postgres.read script readers =
    .error (((readers.breaksOff? script).map Fault.brokenOff).getD .rejected) := by
  simp only [read, Postgres.declarations, h]
  cases readers.breaksOff? script <;> rfl

theorem recover_of_clean (hclean : readers.splitter.clean script = .ok cleaned) :
    scanner.recover script readers = .ok (Sql.alterations cleaned) := by
  simp only [recover, Sql.recoveredKeys, Sql.Splitter.cleaned_of_ok hclean, Except.map]

/-- Reading takes the comments out as the second look does, so that cannot fail any more. -/
theorem recover_of_read (h : engine.read script readers = .ok found) :
    ∃ recovered, engine.recover script readers = .ok recovered := by
  cases engine with
  | postgres | idle => exact ⟨[], rfl⟩
  | scanner =>
    rcases readers.splitter.outlines_cases script with
      ⟨message, -, hnone⟩ | ⟨cleaned, _, hclean, -⟩
    · cases h.symm.trans (read_of_outlines_error hnone)
    · exact ⟨Sql.alterations cleaned, recover_of_clean hclean⟩

/-- No engine before the scanner handles MySQL and SQLite scripts. -/
theorem pick_scanner {d : Dialect} (h : scanner.handles d = true) :
    pick all d = .ok scanner := by
  cases d with
  | postgres => cases h
  | mysql | sqlite => rfl

end Engine

namespace Building

@[simp] theorem liftM_ok_bind {α β : Type} (a : α) (step : α → Building β) :
    (liftM (Except.ok a : Except Fault α) >>= step) = step a := rfl

theorem addScript_of_pick (h : Engine.pick engines (Dialect.detect script) = .error fault) :
    (addScript engines script readers).run s = (.error fault, s) := by
  simp only [addScript, h]
  rfl

theorem addScript_of_fault (hp : Engine.pick engines (Dialect.detect script) = .ok engine)
    (hr : engine.read script readers = .error fault) :
    (addScript engines script readers).run s =
      (if fault.isSkipped then .ok 0 else .error fault, s) := by
  simp only [addScript, hp, hr, liftM_ok_bind]
  cases fault.isSkipped <;> rfl

theorem addScript_of_read (hp : Engine.pick engines (Dialect.detect script) = .ok engine)
    (hr : engine.read script readers = .ok found)
    (hs : engine.recover script readers = .ok recovered) :
    (addScript engines script readers).run s =
      (.ok found.tables.length, s.extend found recovered) := by
  simp only [addScript, hp, hr, hs, liftM_ok_bind]
  rfl

/-- The engine that takes the script cannot read it, and the schema goes on without it. -/
def Skips (engines : List Engine) (script : Text) (readers : Readers) : Prop :=
  ∃ engine fault, Engine.pick engines (Dialect.detect script) = .ok engine ∧
    engine.read script readers = .error fault ∧ fault.isSkipped = true

theorem addScript_of_skips (h : Skips engines script readers) :
    (addScript engines script readers).run s = (.ok 0, s) := by
  obtain ⟨engine, fault, hp, hr, hf⟩ := h
  simp [addScript_of_fault hp hr, hf]

/-- A step ends the run and keeps the tables, passes over the script and keeps them as well, or
adds all that the script declares and what the second look finds. -/
theorem addScript_cases (h : (addScript engines script readers).run s = (answer, after)) :
    (∃ fault, answer = .error fault ∧ after = s) ∨
    (Skips engines script readers ∧ answer = .ok 0 ∧ after = s) ∨
    ∃ engine found recovered, Engine.pick engines (Dialect.detect script) = .ok engine ∧
      engine.read script readers = .ok found ∧ engine.recover script readers = .ok recovered ∧
      answer = .ok found.tables.length ∧ after = s.extend found recovered := by
  cases hp : Engine.pick engines (Dialect.detect script) with
  | error fault =>
    rw [addScript_of_pick hp] at h
    cases h
    exact Or.inl ⟨fault, rfl, rfl⟩
  | ok engine =>
    cases hr : engine.read script readers with
    | error fault =>
      rw [addScript_of_fault hp hr] at h
      cases hf : fault.isSkipped with
      | false =>
        simp only [hf, Bool.false_eq_true, if_false] at h
        cases h
        exact Or.inl ⟨fault, rfl, rfl⟩
      | true =>
        simp only [hf, if_true] at h
        cases h
        exact Or.inr (Or.inl ⟨⟨engine, fault, hp, hr, hf⟩, rfl, rfl⟩)
    | ok found =>
      obtain ⟨recovered, hs⟩ := Engine.recover_of_read hr
      rw [addScript_of_read hp hr hs] at h
      cases h
      exact Or.inr (Or.inr ⟨engine, found, recovered, rfl, hr, hs, rfl, rfl⟩)

end Building

namespace Schema

/-- The schema after some more scripts. -/
def addAll (s : Schema) (scripts : List Text) (readers : Readers := {}) : Except Fault Schema :=
  scripts.foldlM (fun s script => (·.1) <$> s.addScript Engine.all script readers) s

theorem ofScripts_eq (scripts : List Text) (readers : Readers) :
    ofScripts scripts readers = addAll [] scripts readers := rfl

theorem addAll_cons (s : Schema) (script : Text) (scripts : List Text) (readers : Readers) :
    s.addAll (script :: scripts) readers =
      s.addScript Engine.all script readers >>= fun outcome =>
        outcome.1.addAll scripts readers := by
  rw [addAll, List.foldlM_cons]
  cases s.addScript Engine.all script readers <;> rfl

theorem addAll_append (s : Schema) (xs ys : List Text) (readers : Readers) :
    s.addAll (xs ++ ys) readers = s.addAll xs readers >>= fun t => t.addAll ys readers :=
  List.foldlM_append

end Schema

/-- The other scripts of a batch give the schema that they give without a script passed over. -/
theorem Schema.ofScripts_of_skips (h : Building.Skips Engine.all script readers)
    (before later : List Text) :
    ofScripts (before ++ script :: later) readers = ofScripts (before ++ later) readers := by
  have hs : ∀ s : Schema, s.addScript Engine.all script readers = .ok (s, 0) := by
    intro s
    simp only [addScript, Building.addScript_of_skips h]
    rfl
  simp only [ofScripts, List.foldlM_append, List.foldlM_cons, hs]
  rfl

/-- Whatever a step answers but the number of tables that it has read, the tables stay as they
are; and a script that is passed over makes no difference to any batch. -/
theorem Building.addScript_atomic (engines : List Engine) (readers : Readers) (s : Schema)
    (script : Text) :
    (∀ fault after, (addScript engines script readers).run s = (.error fault, after) → after = s) ∧
    (Skips engines script readers → (addScript engines script readers).run s = (.ok 0, s)) ∧
    (Skips Engine.all script readers → ∀ before later,
      Schema.ofScripts (before ++ script :: later) readers =
        Schema.ofScripts (before ++ later) readers) := by
  refine ⟨?_, addScript_of_skips, Schema.ofScripts_of_skips⟩
  intro fault after h
  rcases addScript_cases h with ⟨_, _, hs⟩ | ⟨_, ha, _⟩ | ⟨_, _, _, _, _, _, ha, _⟩
  · exact hs
  · cases ha
  · cases ha

/-- A statement that breaks off is passed over, and a fault where there is no engine for it. -/
theorem Building.addScript_atomic_unfinished :
    let script : Text := "CREATE TABLE".toList
    (∀ s, ∃ fault after,
      (addScript [.scanner] script).run s = (.error fault, after) ∧ after = s) ∧
    Skips Engine.all script {} ∧ (∀ s, (addScript Engine.all script).run s = (.ok 0, s)) ∧
      ∀ before later,
        Schema.ofScripts (before ++ script :: later) = Schema.ofScripts (before ++ later) := by
  intro script
  have hd : Dialect.detect script = .postgres := by decide
  have hp : Engine.pick Engine.all (Dialect.detect script) = .ok .postgres := by
    rw [hd]
    rfl
  have hn : Engine.pick [.scanner] (Dialect.detect script) = .error (.noEngine .postgres) := by
    rw [hd]
    rfl
  have hr : Postgres.statements? script = none := by decide +kernel
  have hskips : Skips Engine.all script {} :=
    ⟨.postgres, .rejected, hp, Engine.read_of_parse_none hr, rfl⟩
  refine ⟨fun s => ?_, hskips, fun s => ?_, ?_⟩
  · have hrun : (addScript [.scanner] script).run s = (.error (.noEngine .postgres), s) :=
      addScript_of_pick hn
    exact ⟨_, _, hrun, (addScript_atomic [.scanner] {} s script).1 _ _ hrun⟩
  · exact (addScript_atomic Engine.all {} s script).2.1 hskips
  · exact (addScript_atomic Engine.all {} [] script).2.2 hskips

end SchemaDiagram
