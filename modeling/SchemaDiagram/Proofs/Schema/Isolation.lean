import SchemaDiagram.Proofs.Schema.Building

/-!
Which scripts end a batch. A script that the engines cannot read is passed over, but not where the
splitter or the reader of the grammar gives up on it: then the whole batch ends with that fault.
-/
namespace SchemaDiagram

variable {readers : Readers} {s : Schema} {script : Text} {scripts : List Text} {fault : Fault}

namespace Sql

theorem createTable_isSkipped {statement : Text} (h : createTable statement = .error fault) :
    fault.isSkipped = true := by
  unfold createTable at h
  split at h
  · cases h
  · split at h
    · cases h
      rfl
    · cases h

theorem declareStatement_isSkipped {found : Declarations} {outline : Outline}
    (h : declareStatement found outline = .error fault) : fault.isSkipped = true := by
  unfold declareStatement at h
  split at h
  · cases hc : createTable outline.text with
    | error fault' =>
      simp only [hc, Except.map, Except.error.injEq] at h
      subst h
      exact createTable_isSkipped hc
    | ok => simp [hc, Except.map] at h
  · cases h
  · cases h

theorem foldlM_declareStatement_isSkipped {found : Declarations} {outlines : List Outline}
    (h : outlines.foldlM declareStatement found = .error fault) : fault.isSkipped = true := by
  induction outlines generalizing found with
  | nil => cases h
  | cons outline outlines ih =>
    rw [List.foldlM_cons] at h
    cases hn : declareStatement found outline with
    | error fault' =>
      rw [hn] at h
      cases h
      exact declareStatement_isSkipped hn
    | ok next =>
      rw [hn] at h
      exact ih h

end Sql

namespace Building

/-- Why a script ends a batch: the splitter gives up on it, though the grammar accepts it where it
is PostgreSQL, or reading it with the grammar breaks off. -/
inductive Stops (readers : Readers) (script : Text) : Fault → Prop where
  | unsplit {message : Text}
      (hgrammar : Dialect.detect script = .postgres → (readers.parse? script).isSome = true)
      (h : readers.splitter.clean script >>= readers.splitter.split = .error message) :
      Stops readers script (.unsplit message)
  | brokenOff {message : Text} (hpostgres : Dialect.detect script = .postgres)
      (hgrammar : readers.parse? script = none) (h : readers.breaksOff? script = some message) :
      Stops readers script (.brokenOff message)

theorem Stops.not_isSkipped (h : Stops readers script fault) : fault.isSkipped = false := by
  cases h <;> rfl

end Building

namespace Engine

/-- The engine for the dialect of a script can read it. -/
def canRead (readers : Readers) (script : Text) : Bool :=
  match pick all (Dialect.detect script) with
  | .ok engine => (engine.read script readers).toOption.isSome
  | .error _ => false

theorem pick_all (dialect : Dialect) :
    pick all dialect = .ok (if dialect = .postgres then .postgres else .scanner) := by
  cases dialect <;> rfl

/-- The engine for a script that ends a batch fails with what ends it. -/
theorem read_of_stops (h : Building.Stops readers script fault) :
    ∃ engine, pick all (Dialect.detect script) = .ok engine ∧
      engine.read script readers = .error fault := by
  cases h with
  | brokenOff hpostgres hgrammar h =>
    refine ⟨.postgres, by rw [pick_all, if_pos hpostgres], ?_⟩
    rw [read_of_parse_none hgrammar, h]
    rfl
  | unsplit hgrammar h =>
    have houtlines := Sql.Splitter.outlines_of_error h
    by_cases hd : Dialect.detect script = .postgres
    · obtain ⟨statements, hparse⟩ := Option.isSome_iff_exists.mp (hgrammar hd)
      refine ⟨.postgres, by rw [pick_all, if_pos hd], ?_⟩
      rw [read_of_parse hparse, Sql.declaredTypes_of_error houtlines]
      rfl
    · exact ⟨.scanner, by rw [pick_all, if_neg hd], read_of_outlines_error houtlines⟩

/-- The engine for any other script fails with a fault that is passed over, or it reads the script. -/
theorem read_cases (h : ∀ fault, ¬ Building.Stops readers script fault) :
    ∃ engine, pick all (Dialect.detect script) = .ok engine ∧
      ((∃ fault, engine.read script readers = .error fault ∧ fault.isSkipped = true) ∨
        ∃ found, engine.read script readers = .ok found) := by
  by_cases hd : Dialect.detect script = .postgres
  · refine ⟨.postgres, by rw [pick_all, if_pos hd], ?_⟩
    cases hparse : readers.parse? script with
    | none =>
      rw [read_of_parse_none hparse]
      cases hbreak : readers.breaksOff? script with
      | none => exact Or.inl ⟨.rejected, rfl, rfl⟩
      | some message => exact (h _ (.brokenOff hd hparse hbreak)).elim
    | some statements =>
      rcases readers.splitter.outlines_cases script with ⟨message, hstop, -⟩ | ⟨_, _, -, houtlines⟩
      · exact (h _ (.unsplit (fun _ => by simp [hparse]) hstop)).elim
      · rw [read_of_parse hparse, Sql.declaredTypes_of_outlines houtlines]
        exact Or.inr ⟨_, rfl⟩
  · refine ⟨.scanner, by rw [pick_all, if_neg hd], ?_⟩
    rcases readers.splitter.outlines_cases script with
      ⟨message, hstop, -⟩ | ⟨_, outlines, -, houtlines⟩
    · exact (h _ (.unsplit (fun he => (hd he).elim) hstop)).elim
    · rw [read_of_outlines houtlines]
      cases hf : outlines.foldlM Sql.declareStatement {} with
      | error fault => exact Or.inl ⟨fault, rfl, Sql.foldlM_declareStatement_isSkipped hf⟩
      | ok found => exact Or.inr ⟨found, rfl⟩

end Engine

namespace Schema

/-- A script that ends a batch does so whatever the schema is. -/
theorem addScript_of_stops (h : Building.Stops readers script fault) (s : Schema) :
    s.addScript Engine.all script readers = .error fault := by
  obtain ⟨engine, hp, hr⟩ := Engine.read_of_stops h
  simp only [addScript, Building.addScript_of_fault hp hr, h.not_isSkipped]
  rfl

/-- A script that does not end the batch leaves every schema as it is, or it is read. -/
theorem addScript_cases (h : ∀ fault, ¬ Building.Stops readers script fault) :
    (Engine.canRead readers script = false ∧
        ∀ s : Schema, s.addScript Engine.all script readers = .ok (s, 0)) ∨
      (Engine.canRead readers script = true ∧
        ∀ s : Schema, ∃ after count, s.addScript Engine.all script readers = .ok (after, count)) := by
  obtain ⟨engine, hp, ⟨fault, hr, hf⟩ | ⟨found, hr⟩⟩ := Engine.read_cases h
  · refine Or.inl ⟨?_, fun s => ?_⟩
    · simp only [Engine.canRead, hp, hr]
      rfl
    · simp only [addScript, Building.addScript_of_fault hp hr, hf]
      rfl
  · obtain ⟨recovered, hs⟩ := Engine.recover_of_read hr
    refine Or.inr ⟨?_, fun s => ?_⟩
    · simp only [Engine.canRead, hp, hr]
      rfl
    · simp only [addScript, Building.addScript_of_read hp hr hs]
      exact ⟨_, _, rfl⟩

/-- Some script of a batch ends it, and no script before it does. -/
def FirstStops (readers : Readers) (scripts : List Text) (fault : Fault) : Prop :=
  ∃ front script rest, scripts = front ++ script :: rest ∧
    (∀ other ∈ front, ∀ fault, ¬ Building.Stops readers other fault) ∧
    Building.Stops readers script fault

theorem FirstStops.cons (h : FirstStops readers scripts fault)
    (hscript : ∀ fault, ¬ Building.Stops readers script fault) :
    FirstStops readers (script :: scripts) fault := by
  obtain ⟨front, last, rest, rfl, hfront, hlast⟩ := h
  exact ⟨script :: front, last, rest, rfl, List.forall_mem_cons.mpr ⟨hscript, hfront⟩, hlast⟩

/-- A batch ends with the first script that stops it, and goes on without the scripts that cannot be
read for another reason. -/
theorem addAll_cases (readers : Readers) (scripts : List Text) (s : Schema) :
    (∃ fault, FirstStops readers scripts fault ∧ s.addAll scripts readers = .error fault) ∨
      ((∀ script ∈ scripts, ∀ fault, ¬ Building.Stops readers script fault) ∧
        ∃ after, s.addAll scripts readers = .ok after ∧
          s.addAll (scripts.filter (Engine.canRead readers)) readers = .ok after) := by
  induction scripts generalizing s with
  | nil => exact Or.inr ⟨by simp, s, rfl, rfl⟩
  | cons script scripts ih =>
    by_cases hstops : ∃ fault, Building.Stops readers script fault
    · obtain ⟨fault, hstops⟩ := hstops
      refine Or.inl ⟨fault, ⟨[], script, scripts, rfl, by simp, hstops⟩, ?_⟩
      rw [addAll_cons, addScript_of_stops hstops]
      rfl
    · have hgoes := not_exists.mp hstops
      have hrest : ∃ next : Schema, s.addAll (script :: scripts) readers = next.addAll scripts readers ∧
          s.addAll ((script :: scripts).filter (Engine.canRead readers)) readers =
            next.addAll (scripts.filter (Engine.canRead readers)) readers := by
        rw [addAll_cons, List.filter_cons]
        rcases addScript_cases hgoes with ⟨hcan, hrun⟩ | ⟨hcan, hrun⟩
        · rw [hrun s, hcan]
          exact ⟨s, rfl, rfl⟩
        · obtain ⟨next, count, hrun⟩ := hrun s
          rw [hcan, if_pos rfl, addAll_cons, hrun]
          exact ⟨next, rfl, rfl⟩
      obtain ⟨next, hall, hread⟩ := hrest
      rw [hall, hread]
      rcases ih next with ⟨fault, hfirst, h⟩ | ⟨hgo, h⟩
      · exact Or.inl ⟨fault, hfirst.cons hgoes, h⟩
      · exact Or.inr ⟨List.forall_mem_cons.mpr ⟨hgoes, hgo⟩, h⟩

/-- A batch ends with a fault exactly when one of its scripts stops it, and then with the fault of
the first such script. Any other batch gives the schema of those of its scripts that can be read. -/
theorem ofScripts_isolated (readers : Readers) (scripts : List Text) :
    (∃ fault, FirstStops readers scripts fault ∧ ofScripts scripts readers = .error fault) ∨
      ((∀ script ∈ scripts, ∀ fault, ¬ Building.Stops readers script fault) ∧
        ∃ s, ofScripts scripts readers = .ok s ∧
          ofScripts (scripts.filter (Engine.canRead readers)) readers = .ok s) :=
  addAll_cases readers scripts []

/-- A script that stops takes the scripts before it and behind it along. -/
theorem ofScripts_of_stops (h : ofScripts scripts readers = .ok s)
    (hstops : Building.Stops readers script fault) (rest : List Text) :
    ofScripts (scripts ++ script :: rest) readers = .error fault := by
  rw [ofScripts_eq] at h ⊢
  rw [addAll_append, h]
  change s.addAll (script :: rest) readers = _
  rw [addAll_cons, addScript_of_stops hstops]
  rfl

/-- A script of one table with a check in a hundred parentheses. -/
def nested : Text :=
  "CREATE TABLE t (c INT UNSIGNED CHECK ".toList ++ List.replicate 100 '(' ++ ['1'] ++
    List.replicate 100 ')' ++ [')']

/-- A script that nests too deeply takes the scripts around it along. -/
theorem ofScripts_nested :
    ofScripts ["CREATE TABLE a (b INT UNSIGNED)".toList, nested] =
        .error (.unsplit "Maximum grouping depth exceeded (100).".toList) ∧
      ∃ s, ofScripts ["CREATE TABLE a (b INT UNSIGNED)".toList] = .ok s := by
  have hnested : Building.Stops {} nested
      (.unsplit "Maximum grouping depth exceeded (100).".toList) := by
    refine .unsplit (fun hd => ?_) ?_
    · have hmysql : Dialect.detect nested = .mysql := by decide +kernel
      cases hmysql.symm.trans hd
    · have hrefused : (Sql.Statement.ofText nested).findSome? Sql.Statement.refusal? =
          some "Maximum grouping depth exceeded (100).".toList := by decide +kernel
      simp only [Sql.withoutRemarks, Sql.statements, hrefused]
      rfl
  obtain ⟨s, hfirst⟩ : ∃ s, ofScripts ["CREATE TABLE a (b INT UNSIGNED)".toList] = .ok s :=
    ⟨[⟨"a".toList, [{ name := "b".toList, type := "INT UNSIGNED".toList }]⟩],
      eq_ok_of_toOption (by decide +kernel)⟩
  exact ⟨ofScripts_of_stops hfirst hnested [], s, hfirst⟩

end Schema
end SchemaDiagram
