import Mathlib.Data.List.Forall2
import SchemaDiagram.CommandLine.Run
import SchemaDiagram.Proofs.Files.Writing

/-!
What a run leaves behind. A run shows its diagram and saves it, or it fails with nothing shown and
the files as they were, whichever of its steps the failure comes from.
-/
namespace SchemaDiagram.CommandLine

variable {s : Settings} {files : Files} {o : Options} {i : Inputs} {output raw : Text}
  {done : Session} {scripts : List Text} {stated : Option Text} {m : Model} {fault : Fault}
  {flaw : FileFault} {names : List Text} {readers : Readers} {logged : Bool}

section Steps

variable {α β : Type} {step : Filing α} {next : α → Filing β} {a : α} {after : Session}
  {path : Path} {text : Text}

theorem run_bind (step : Filing α) (next : α → Filing β) (done : Session) :
    (step >>= next).run.run done = match step.run.run done with
      | (.ok (.ok a), after) => (next a).run.run after
      | (.ok (.error flaw), after) => (.ok (.error flaw), after)
      | (.error breakdown, after) => (.error breakdown, after) := by
  simp only [bind, ExceptT.bind, ExceptT.bindCont, ExceptT.mk, ExceptT.run, StateT.bind]
  rcases step done with ⟨_ | _ | _, after⟩ <;> rfl

theorem run_bind_of_ok (h : step.run.run done = (.ok (.ok a), after)) :
    (step >>= next).run.run done = (next a).run.run after := by
  rw [run_bind, h]

theorem run_bind_of_flaw (h : step.run.run done = (.ok (.error flaw), after)) :
    (step >>= next).run.run done = (.ok (.error flaw), after) := by
  rw [run_bind, h]

theorem run_bind_of_breakdown {breakdown : Breakdown}
    (h : step.run.run done = (.error breakdown, after)) :
    (step >>= next).run.run done = (.error breakdown, after) := by
  rw [run_bind, h]

theorem run_get (done : Session) :
    (get : Filing Session).run.run done = (.ok (.ok done), done) := rfl

theorem liftM_ok_bind (a : α) (next : α → Filing β) :
    (liftM (Except.ok a : Except FileFault α) >>= next) = next a := rfl

theorem run_save_of_flaw (h : (done.filesAfter files).writable path = .error flaw) :
    (save files path text).run.run done = (.ok (.error flaw), done) := by
  rw [save, run_bind_of_ok (run_get done), h]
  rfl

theorem run_save_of_ok (h : (done.filesAfter files).writable path = .ok names) :
    (save files path text).run.run done =
      (.ok (.ok ()), { done with written := done.written ++ [(path, text)] }) := by
  rw [save, run_bind_of_ok (run_get done), h]
  rfl

end Steps

theorem build_of_flaw (h : texts files i = .error flaw) :
    (build files i readers).run.run done = (.ok (.error flaw), done) := by
  rw [build, h]
  rfl

theorem build_of_fault (ht : texts files i = .ok (scripts, stated))
    (hm : Model.ofTexts scripts stated readers = .error fault) :
    (build files i readers).run.run done =
      (.error (.script fault), { done with told := done.told ++ announcement i }) := by
  simp only [build, ht, liftM_ok_bind, hm]
  rfl

theorem build_of_model (ht : texts files i = .ok (scripts, stated))
    (hm : Model.ofTexts scripts stated readers = .ok m) : (build files i readers).run.run done =
      (.ok (.ok m), { done with told := done.told ++ announcement i ++ summary i m }) := by
  simp only [build, ht, liftM_ok_bind, hm]
  rfl

theorem deliver_of_flaw (ho : output ≠ [])
    (h : (done.filesAfter files).writable (Path.ofText output) = .error flaw) (diagram : Text) :
    (deliver s files output diagram).run.run done = (.ok (.error flaw), done) := by
  have ho : (!output.isEmpty) = true := by simpa using ho
  rw [deliver, if_pos ho, run_bind_of_flaw (run_save_of_flaw h)]

theorem deliver_of_ok (ho : output ≠ [])
    (h : (done.filesAfter files).writable (Path.ofText output) = .ok names) (diagram : Text) :
    (deliver s files output diagram).run.run done = (.ok (.ok ()), { done with
      told := done.told ++ ("\n✅ ER diagram saved to: ".toList ++ output ++ ['\n'])
      written := done.written ++ [(Path.ofText output, s.exported diagram)] }) := by
  have ho : (!output.isEmpty) = true := by simpa using ho
  rw [deliver, if_pos ho, run_bind_of_ok (run_save_of_ok h)]
  rfl

theorem deliver_nowhere (s : Settings) (files : Files) (diagram : Text) (done : Session) :
    (deliver s files [] diagram).run.run done = (.ok (.ok ()), done) := rfl

/-- The files of a run make a model, and there is a place for its diagram if it is to be saved. -/
structure Converts (files : Files) (i : Inputs) (output : Text) (readers : Readers) (m : Model) :
    Prop where
  parsed : ∃ scripts stated, texts files i = .ok (scripts, stated) ∧
    Model.ofTexts scripts stated readers = .ok m
  place : output ≠ [] → ∃ names, files.writable (Path.ofText output) = .ok names

/-- What has no model fails before anything is shown or written. -/
theorem build_cases {answer : Except Breakdown (Except FileFault Model)} {after : Session}
    (h : (build files i readers).run.run {} = (answer, after)) :
    after.shown = [] ∧ after.written = [] ∧
      (((∃ breakdown, answer = .error breakdown) ∨ ∃ flaw, answer = .ok (.error flaw)) ∧
          (∀ m scripts stated, texts files i = .ok (scripts, stated) →
            Model.ofTexts scripts stated readers ≠ .ok m) ∨
        ∃ m scripts stated, texts files i = .ok (scripts, stated) ∧
          Model.ofTexts scripts stated readers = .ok m ∧ answer = .ok (.ok m)) := by
  cases ht : texts files i with
  | error flaw =>
    cases (build_of_flaw ht).symm.trans h
    exact ⟨rfl, rfl, Or.inl ⟨Or.inr ⟨flaw, rfl⟩, fun _ _ _ => nofun⟩⟩
  | ok found =>
    obtain ⟨scripts, stated⟩ := found
    cases hm : Model.ofTexts scripts stated readers with
    | error fault =>
      cases (build_of_fault ht hm).symm.trans h
      refine ⟨rfl, rfl, Or.inl ⟨Or.inl ⟨_, rfl⟩, ?_⟩⟩
      rintro m _ _ ⟨⟩ hm'
      cases hm.symm.trans hm'
    | ok m =>
      cases (build_of_model ht hm).symm.trans h
      exact ⟨rfl, rfl, Or.inr ⟨m, scripts, stated, rfl, hm, rfl⟩⟩

/-- A diagram is saved where a file is named, unless there is no place for the file. -/
theorem deliver_cases {answer : Except Breakdown (Except FileFault Unit)} {after : Session}
    {diagram : Text} (hwritten : done.written = [])
    (h : (deliver s files output diagram).run.run done = (answer, after)) :
    after.shown = done.shown ∧
      ((∃ flaw, answer = .ok (.error flaw)) ∧ after.written = [] ∧ output ≠ [] ∧
          (∀ names, files.writable (Path.ofText output) ≠ .ok names) ∨
        (output ≠ [] → ∃ names, files.writable (Path.ofText output) = .ok names) ∧
          answer = .ok (.ok ()) ∧ after.written =
            if output = [] then [] else [(Path.ofText output, s.exported diagram)]) := by
  have hfiles : done.filesAfter files = files := by rw [Session.filesAfter, hwritten]; rfl
  by_cases ho : output = []
  · subst ho
    cases (deliver_nowhere s files diagram done).symm.trans h
    exact ⟨rfl, Or.inr ⟨fun hne => (hne rfl).elim, rfl, hwritten⟩⟩
  · cases hplace : (done.filesAfter files).writable (Path.ofText output) with
    | error flaw =>
      cases (deliver_of_flaw ho hplace diagram).symm.trans h
      rw [hfiles] at hplace
      refine ⟨rfl, Or.inl ⟨⟨flaw, rfl⟩, hwritten, ho, fun names hnames => ?_⟩⟩
      cases hplace.symm.trans hnames
    | ok names =>
      cases (deliver_of_ok ho hplace diagram).symm.trans h
      rw [hfiles] at hplace
      exact ⟨rfl, Or.inr ⟨fun _ => ⟨names, hplace⟩, rfl, by rw [hwritten, if_neg ho]; rfl⟩⟩

/-- The part of a run before it shows anything fails without a trace in the files, or it gives a
diagram and saves it where a file is named. -/
theorem convert_cases {answer : Except Breakdown (Except FileFault Text)} {after : Session}
    (h : (convert s files i output readers).run.run {} = (answer, after)) : after.shown = [] ∧
      (((∃ breakdown, answer = .error breakdown) ∨ ∃ flaw, answer = .ok (.error flaw)) ∧
          after.written = [] ∧ (∀ m, ¬ Converts files i output readers m) ∨
        ∃ m, Converts files i output readers m ∧ answer = .ok (.ok m.diagram) ∧ after.written =
          if output = [] then [] else [(Path.ofText output, s.exported m.diagram)]) := by
  rcases hb : (build files i readers).run.run {} with ⟨built, mid⟩
  obtain ⟨hshown, hwritten, ⟨hfail, hnone⟩ | ⟨m, scripts, stated, ht, hm, rfl⟩⟩ := build_cases hb
  · have hnone : ∀ m, ¬ Converts files i output readers m := by
      rintro m ⟨⟨scripts, stated, ht, hm⟩, -⟩
      exact hnone m scripts stated ht hm
    rcases hfail with ⟨breakdown, rfl⟩ | ⟨flaw, rfl⟩
    · cases (run_bind_of_breakdown hb).symm.trans h
      exact ⟨hshown, Or.inl ⟨Or.inl ⟨breakdown, rfl⟩, hwritten, hnone⟩⟩
    · cases (run_bind_of_flaw hb).symm.trans h
      exact ⟨hshown, Or.inl ⟨Or.inr ⟨flaw, rfl⟩, hwritten, hnone⟩⟩
  · rw [convert, run_bind_of_ok hb] at h
    rcases hd : (deliver s files output m.diagram).run.run mid with ⟨delivered, last⟩
    obtain ⟨hlast, ⟨⟨flaw, rfl⟩, hkept, ho, hplace⟩ | ⟨hplace, rfl, hkept⟩⟩ :=
      deliver_cases hwritten hd
    · cases (run_bind_of_flaw hd).symm.trans h
      refine ⟨hlast.trans hshown, Or.inl ⟨Or.inr ⟨flaw, rfl⟩, hkept, fun m' hc => ?_⟩⟩
      obtain ⟨names, hnames⟩ := hc.place ho
      exact hplace names hnames
    · cases (run_bind_of_ok hd).symm.trans h
      exact ⟨hlast.trans hshown, Or.inr ⟨m, ⟨⟨scripts, stated, ht, hm⟩, hplace⟩, rfl, hkept⟩⟩

theorem runWith_of_missing (h : missing? files o = some raw) :
    (runWith s files o readers).run done = (.ok 1, { done with told := done.told ++
      ("❌ Error: File not found: ".toList ++ raw ++ ['\n']) }) := by
  rw [runWith, h]
  rfl

theorem runWith_of_refusal {fault : PatternFault} (h : missing? files o = none)
    (hi : inputs s files o = .error fault) :
    (runWith s files o readers).run done = (.error (.pattern fault), done) := by
  rw [runWith, h, hi]
  rfl

theorem runWith_of_inputs (h : missing? files o = none) (hi : inputs s files o = .ok i) :
    (runWith s files o readers).run done =
      match (convert s files i o.output readers).run.run done with
      | (.ok converted, after) => (conclude converted).run after
      | (.error breakdown, after) => (.error breakdown, after) := by
  rw [runWith, h, hi]
  change ((convert s files i o.output readers).run >>= conclude).run done = _
  simp only [bind, ExceptT.bind, ExceptT.bindCont, ExceptT.mk, ExceptT.run, StateT.bind]
  rcases convert s files i o.output readers done with ⟨_ | _, after⟩ <;> rfl

theorem conclude_of_flaw (flaw : FileFault) (done : Session) :
    ∃ answer after, (conclude (.error flaw)).run done = (answer, after) ∧
      (answer = .ok 1 ∨ ∃ breakdown, answer = .error breakdown) ∧ after.shown = done.shown ∧
      after.written = done.written := by
  rw [conclude]
  cases flaw.isCaught with
  | true => exact ⟨_, _, rfl, Or.inl rfl, rfl, rfl⟩
  | false => exact ⟨_, _, rfl, Or.inr ⟨_, rfl⟩, rfl, rfl⟩

theorem conclude_of_ok (diagram : Text) (done : Session) : (conclude (.ok diagram)).run done =
    (.ok 0, { done with shown := done.shown ++ (diagram ++ ['\n']) }) := rfl

/-- The paths of a run can be searched, and the files found make a model with a place for it. -/
def Yields (s : Settings) (files : Files) (o : Options) (readers : Readers) (m : Model) : Prop :=
  ∃ i, inputs s files o = .ok i ∧ Converts files i o.output readers m

/-- A run whose paths exist ends well, or it ends with an error or breaks off. -/
theorem runWith_cases {answer : Except Breakdown Nat} {after : Session}
    (hmissing : missing? files o = none)
    (h : (runWith s files o readers).run {} = (answer, after)) :
    (∃ m, Yields s files o readers m ∧ answer = .ok 0 ∧ after.shown = m.diagram ++ ['\n'] ∧ after.written =
        if o.output = [] then [] else [(Path.ofText o.output, s.exported m.diagram)]) ∨
    (answer = .ok 1 ∨ ∃ breakdown, answer = .error breakdown) ∧ after.shown = [] ∧
      after.written = [] ∧ ∀ m, ¬ Yields s files o readers m := by
  cases hi : inputs s files o with
  | error fault =>
    rw [runWith_of_refusal hmissing hi] at h
    cases h
    refine Or.inr ⟨Or.inr ⟨_, rfl⟩, rfl, rfl, ?_⟩
    rintro m ⟨i, hi', -⟩
    cases hi.symm.trans hi'
  | ok i =>
    rcases hc : (convert s files i o.output readers).run.run {} with ⟨converted, mid⟩
    rw [runWith_of_inputs hmissing hi, hc] at h
    obtain ⟨hshown, ⟨hfail, hwritten, hnone⟩ | ⟨m, hm, rfl, hwritten⟩⟩ := convert_cases hc
    · have hnone : ∀ m, ¬ Yields s files o readers m := by
        rintro m ⟨i', hi', hm⟩
        cases hi.symm.trans hi'
        exact hnone m hm
      rcases hfail with ⟨breakdown, rfl⟩ | ⟨flaw, rfl⟩
      · cases h
        exact Or.inr ⟨Or.inr ⟨breakdown, rfl⟩, hshown, hwritten, hnone⟩
      · obtain ⟨answer', after', hend, hanswer, hshown', hwritten'⟩ := conclude_of_flaw flaw mid
        cases hend.symm.trans h
        exact Or.inr ⟨hanswer, hshown'.trans hshown, hwritten'.trans hwritten, hnone⟩
    · cases (conclude_of_ok m.diagram mid).symm.trans h
      exact Or.inl ⟨m, ⟨i, hi, hm⟩, rfl, by rw [hshown]; rfl, hwritten⟩

/-- A log can be set up with a level, or one is there already. -/
def LogsAt (logged : Bool) (level : Text) : Prop := logged = true ∨ levelFault? level = none

theorem start_of_logsAt (h : LogsAt logged (o.logLevel.getD s.logLevel)) :
    (start s files o readers logged).run done = (runWith s files o readers).run done := by
  have hlog : setUpLog logged (o.logLevel.getD s.logLevel) = pure () := by
    rw [setUpLog]
    rcases h with rfl | hlevel
    · split <;> rfl
    · rw [hlevel]
  rw [start, hlog]
  rfl

theorem start_of_not_logsAt (h : ¬ LogsAt logged (o.logLevel.getD s.logLevel)) :
    ∃ message, (start s files o readers logged).run done = (.error (.level message), done) := by
  rw [LogsAt, not_or, Bool.not_eq_true] at h
  obtain ⟨rfl, hlevel⟩ := h
  obtain ⟨message, hmessage⟩ := Option.ne_none_iff_exists'.mp hlevel
  refine ⟨message, ?_⟩
  rw [start, setUpLog, hmessage]
  rfl

/-- What it takes for a run to end well: the log can be set up, all paths given exist and can be
searched, the files hold texts of which the scripts can be parsed, and there is a place for the file
that is named. -/
structure Succeeds (s : Settings) (files : Files) (o : Options) (readers : Readers) (logged : Bool)
    (m : Model) : Prop where
  log : LogsAt logged (o.logLevel.getD s.logLevel)
  found : ∀ raw ∈ given o, files.exists? (Path.ofText raw) = true
  parsed : ∃ i scripts stated, inputs s files o = .ok i ∧
    List.Forall₂ files.Holds i.scripts scripts ∧ Option.Rel files.Holds i.relations stated ∧
    Model.ofTexts scripts stated readers = .ok m
  place : o.output ≠ [] → ∃ names, files.writable (Path.ofText o.output) = .ok names

/-- The diagram is shown. It is saved with the watermark at the place of the file that is named,
and nowhere if none is. -/
structure Delivers (s : Settings) (files : Files) (o : Options) (m : Model) (done : Session) :
    Prop where
  shown : done.shown = m.diagram ++ ['\n']
  unsaved : o.output = [] → done.filesAfter files = files
  saved : o.output ≠ [] → (done.filesAfter files).node (Path.ofText o.output) =
    .ok (.file (Utf8.encode (m.diagram ++ ['\n'] ++ s.watermark ++ ['\n'])))
  others : o.output ≠ [] → (done.filesAfter files).here = files.here ∧
    ∃ names, files.writable (Path.ofText o.output) = .ok names ∧
      ∀ ns ≠ names, (done.filesAfter files).root.contentAt? ns = files.root.contentAt? ns

section Reading

variable {α β ε : Type} {f : α → Except ε β} {as : List α} {bs : List β} {a? : Option α}
  {b? : Option β}

theorem bind_eq_ok_iff {answer : Except ε α} {f : α → Except ε β} {b : β} :
    (answer >>= f) = .ok b ↔ ∃ a, answer = .ok a ∧ f a = .ok b := by
  cases answer <;> simp [bind, Except.bind]

theorem list_mapM_eq_ok_iff :
    as.mapM f = .ok bs ↔ List.Forall₂ (fun a b => f a = .ok b) as bs := by
  induction as generalizing bs with
  | nil => cases bs <;> simp [pure, Except.pure]
  | cons a as ih =>
    simp only [List.mapM_cons, bind_eq_ok_iff, ih, List.forall₂_cons_left_iff]
    constructor
    · rintro ⟨b, hb, bs, hbs, h⟩
      exact ⟨b, bs, hb, hbs, (Except.ok.inj h).symm⟩
    · rintro ⟨b, bs, hb, hbs, rfl⟩
      exact ⟨b, hb, bs, hbs, rfl⟩

theorem option_mapM_eq_ok_iff :
    a?.mapM f = .ok b? ↔ Option.Rel (fun a b => f a = .ok b) a? b? := by
  cases a? with
  | none =>
    constructor
    · rintro ⟨⟩
      exact .none
    · rintro ⟨⟩
      rfl
  | some a =>
    have hmap : (some a).mapM f = (f a >>= fun b => .ok (some b)) := rfl
    rw [hmap, bind_eq_ok_iff]
    constructor
    · rintro ⟨b, hb, h⟩
      cases h
      exact .some hb
    · rintro ⟨hb⟩
      exact ⟨_, hb, rfl⟩

theorem texts_eq_ok_iff : texts files i = .ok (scripts, stated) ↔
    List.Forall₂ files.Holds i.scripts scripts ∧ Option.Rel files.Holds i.relations stated := by
  simp only [texts, bind_eq_ok_iff, list_mapM_eq_ok_iff, option_mapM_eq_ok_iff,
    Files.read_eq_ok_iff]
  constructor
  · rintro ⟨scripts', hscripts, stated', hstated, h⟩
    cases h
    exact ⟨hscripts, hstated⟩
  · rintro ⟨hscripts, hstated⟩
    exact ⟨scripts, hscripts, stated, hstated, rfl⟩

end Reading

theorem missing?_eq_none_iff :
    missing? files o = none ↔ ∀ raw ∈ given o, files.exists? (Path.ofText raw) = true := by
  simp [missing?]

theorem succeeds_iff : Succeeds s files o readers logged m ↔
    LogsAt logged (o.logLevel.getD s.logLevel) ∧ missing? files o = none ∧
      Yields s files o readers m := by
  constructor
  · rintro ⟨hlog, hfound, ⟨i, scripts, stated, hi, hscripts, hstated, hm⟩, hplace⟩
    exact ⟨hlog, missing?_eq_none_iff.mpr hfound, i, hi,
      ⟨scripts, stated, texts_eq_ok_iff.mpr ⟨hscripts, hstated⟩, hm⟩, hplace⟩
  · rintro ⟨hlog, hmissing, i, hi, ⟨scripts, stated, ht, hm⟩, hplace⟩
    obtain ⟨hscripts, hstated⟩ := texts_eq_ok_iff.mp ht
    exact ⟨hlog, missing?_eq_none_iff.mp hmissing,
      ⟨i, scripts, stated, hi, hscripts, hstated, hm⟩, hplace⟩

theorem Delivers.of_written {done : Session} (hs : Succeeds s files o readers logged m)
    (hshown : done.shown = m.diagram ++ ['\n']) (hwritten : done.written =
      if o.output = [] then [] else [(Path.ofText o.output, s.exported m.diagram)]) :
    Delivers s files o m done := by
  by_cases ho : o.output = []
  · rw [if_pos ho] at hwritten
    refine ⟨hshown, fun _ => ?_, fun hne => (hne ho).elim, fun hne => (hne ho).elim⟩
    rw [Session.filesAfter, hwritten]
    rfl
  · rw [if_neg ho] at hwritten
    obtain ⟨names, hnames⟩ := hs.place ho
    obtain ⟨after, hafter⟩ : ∃ after, files.write (Path.ofText o.output) (s.exported m.diagram) =
        .ok after := by
      rw [Files.write, hnames]
      exact ⟨_, rfl⟩
    have hfiles : done.filesAfter files = after := by
      rw [Session.filesAfter, hwritten, List.foldl_cons, hafter]
      rfl
    obtain ⟨hnode, hhere, places, hplaces, hcontent⟩ := Files.write_eq_ok hafter
    refine ⟨hshown, fun h => (ho h).elim, fun _ => hfiles ▸ hnode, fun _ => ?_⟩
    refine ⟨hfiles ▸ hhere, places, hplaces, ?_⟩
    rintro ns hne
    rw [hfiles, hcontent, if_neg hne]

/-- A run ends well with the diagram shown, and saved if a file is named, or it ends with an error
or breaks off, nothing is shown and no file is written. -/
theorem run_all_or_nothing (readers : Readers) (logged : Bool) {args : List Text}
    (h : Options.ofArguments args = .ok o) :
    ∃ answer done, run s files args readers logged = .ok (answer, done) ∧
      ((answer = .ok 0 ∧ ∃ m, Succeeds s files o readers logged m ∧ Delivers s files o m done) ∨
        ((answer = .ok 1 ∨ ∃ breakdown, answer = .error breakdown) ∧ done.shown = [] ∧
          done.filesAfter files = files ∧ ∀ m, ¬ Succeeds s files o readers logged m)) := by
  obtain ⟨⟨answer, done⟩, hstart⟩ : ∃ found, (start s files o readers logged).run {} = found :=
    ⟨_, rfl⟩
  have hrun : run s files args readers logged = .ok (answer, done) := by
    rw [run, h, ← hstart]
    rfl
  refine ⟨answer, done, hrun, ?_⟩
  by_cases hlog : LogsAt logged (o.logLevel.getD s.logLevel)
  · rw [start_of_logsAt hlog] at hstart
    cases hmissing : missing? files o with
    | some raw =>
      rw [runWith_of_missing hmissing] at hstart
      cases hstart
      refine Or.inr ⟨Or.inl rfl, rfl, rfl, fun m hs => ?_⟩
      cases hmissing.symm.trans (succeeds_iff.mp hs).2.1
    | none =>
      rcases runWith_cases hmissing hstart with ⟨m, hm, rfl, hshown, hwritten⟩ |
        ⟨hfail, hshown, hwritten, hnone⟩
      · have hs : Succeeds s files o readers logged m := succeeds_iff.mpr ⟨hlog, hmissing, hm⟩
        exact Or.inl ⟨rfl, m, hs, .of_written hs hshown hwritten⟩
      · refine Or.inr ⟨hfail, hshown, ?_, fun m hs => hnone m (succeeds_iff.mp hs).2.2⟩
        rw [Session.filesAfter, hwritten]
        rfl
  · obtain ⟨message, hlevel⟩ := @start_of_not_logsAt s files o {} readers logged hlog
    rw [hlevel] at hstart
    cases hstart
    exact Or.inr ⟨Or.inr ⟨_, rfl⟩, rfl, rfl, fun m hs => hlog hs.log⟩

/-- A working folder, and in it a folder with an empty file for relations. -/
def plainFiles : Files where
  root := .folder [("w".toList, .folder [("m".toList, .folder [("a.dbml".toList, .file [])])])]
  here := ["w".toList]

/-- A run on the folder that saves its diagram beside it. -/
def besideRun : Options where
  paths := ["/w/m".toList]
  output := "m/../../w/out.mmd".toList
  logLevel := some "info".toList

/-- The arguments of the run. -/
def besideArguments : List Text :=
  ["/w/m".toList, "--log=info".toList, "-o".toList, "m/../../w/out.mmd".toList]

theorem run_all_or_nothing_beside : ∃ s m done, Settings.ofEnvironment [] = .ok s ∧
    run s plainFiles besideArguments = .ok (.ok 0, done) ∧
    Delivers s plainFiles besideRun m done := by
  obtain ⟨s, hs⟩ : ∃ s, Settings.ofEnvironment [] = .ok s := ⟨_, rfl⟩
  have hinputs : inputs s plainFiles besideRun =
      .ok { relations := some ⟨['/'], ["w".toList, "m".toList, "a.dbml".toList]⟩ } := by
    cases hs
    rfl
  have hsucceeds : Succeeds s plainFiles besideRun {} false ⟨[], []⟩ := by
    exact ⟨Or.inr rfl, by decide, ⟨_, [], some [], hinputs, .nil, .some ⟨[], rfl, rfl⟩, rfl⟩,
      fun _ => ⟨["w".toList, "out.mmd".toList], rfl⟩⟩
  have hoptions : Options.ofArguments besideArguments = .ok besideRun := rfl
  obtain ⟨answer, done, hrun, ⟨rfl, m, -, hdelivers⟩ | ⟨-, -, -, hnone⟩⟩ :=
    @run_all_or_nothing s plainFiles besideRun {} false _ hoptions
  · exact ⟨s, m, done, hs, hrun, hdelivers⟩
  · exact (hnone _ hsucceeds).elim

end SchemaDiagram.CommandLine
