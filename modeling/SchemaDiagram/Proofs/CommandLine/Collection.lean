import Mathlib.Data.List.Forall2
import SchemaDiagram.CommandLine.Inputs
import SchemaDiagram.Proofs.Files.Relisting

/-!
The files that a run reads. They are settled by the paths that it is given and by the files below
these, so that a run can be repeated whatever order its folders tell their entries in.
-/
namespace SchemaDiagram.CommandLine.Inputs

/-- The scripts that a path gives: the path itself where no folder is, else all files below the
folder that meet the pattern, each once and in increasing order. -/
inductive Gives (files : Files) (pattern raw : Text) : List Path → Prop where
  | itself (h : files.isFolderAt (.ofText raw) = false) : Gives files pattern raw [.ofText raw]
  | below {found : List Path} (h : files.isFolderAt (.ofText raw) = true)
      (increasing : Path.Increasing found)
      (covered : ∀ p, p ∈ found ↔ files.isFileAt p = true ∧ FileTree.Meets (.ofText raw) pattern p) :
      Gives files pattern raw found

/-- A path leads to a folder, and below the folder lies a file that meets the pattern. -/
structure Offers (files : Files) (pattern raw : Text) (p : Path) : Prop where
  folder : files.isFolderAt (.ofText raw) = true
  file : files.isFileAt p = true
  meets : FileTree.Meets (.ofText raw) pattern p

/-- The first of some paths that offers any file, and the least of its files. -/
inductive Chooses (files : Files) (pattern : Text) (paths : List Text) : Option Path → Prop where
  | nothing (h : ∀ raw ∈ paths, ∀ p, ¬ Offers files pattern raw p) :
      Chooses files pattern paths none
  | least {front rest : List Text} {raw : Text} {p : Path} (hpaths : paths = front ++ raw :: rest)
      (hfront : ∀ other ∈ front, ∀ q, ¬ Offers files pattern other q)
      (hp : Offers files pattern raw p)
      (hleast : ∀ q, Offers files pattern raw q → q = p ∨ p.parts < q.parts) :
      Chooses files pattern paths (some p)

/-- The inputs that belong to some paths: the scripts that each of them gives, one path after the
other, and the one file with relations that they choose. -/
structure BelongTo (files : Files) (scriptPattern relationsPattern : Text) (paths : List Text)
    (found : Inputs) : Prop where
  scripts : ∃ lists, List.Forall₂ (Gives files scriptPattern) paths lists ∧
    found.scripts = lists.flatten
  relations : Chooses files relationsPattern paths found.relations

/-- A search below one of some paths is refused: the path leads to a folder, and one of the patterns
is not accepted, the one for scripts being tried first. -/
structure Refuses (files : Files) (scriptPattern relationsPattern : Text) (paths : List Text)
    (fault : PatternFault) : Prop where
  folder : ∃ raw ∈ paths, files.isFolderAt (.ofText raw) = true
  refused : (Pattern.refusal? scriptPattern).or (Pattern.refusal? relationsPattern) = some fault

variable {files files' : Files} {pattern raw : Text} {p : Path}

theorem gives_scriptsAt (h : files.root.Sound) (pattern raw : Text) :
    Gives files pattern raw (scriptsAt files pattern raw) := by
  cases hfolder : files.isFolderAt (.ofText raw) with
  | false =>
    have hself : scriptsAt files pattern raw = [.ofText raw] := by simp [scriptsAt, hfolder]
    rw [hself]
    exact .itself hfolder
  | true =>
    have hsearch : scriptsAt files pattern raw = files.search (.ofText raw) pattern := by
      simp [scriptsAt, hfolder]
    rw [hsearch]
    exact .below hfolder (Files.increasing_search h) fun p => Files.mem_search h

theorem offers_iff (h : files.root.Sound) : Offers files pattern raw p ↔
    files.isFolderAt (.ofText raw) = true ∧ p ∈ files.search (.ofText raw) pattern := by
  rw [Files.mem_search h]
  exact ⟨fun ⟨hfolder, hfile, hmeets⟩ => ⟨hfolder, hfile, hmeets⟩,
    fun ⟨hfolder, hfile, hmeets⟩ => ⟨hfolder, hfile, hmeets⟩⟩

theorem relationsAt_eq_none (h : files.root.Sound) (hnone : relationsAt files pattern raw = none)
    (p : Path) : ¬ Offers files pattern raw p := by
  intro hp
  obtain ⟨hfolder, hmem⟩ := (offers_iff h).mp hp
  have hhead : (files.search (.ofText raw) pattern).head? = none := by
    simpa [relationsAt, hfolder] using hnone
  rw [List.head?_eq_none_iff.mp hhead] at hmem
  cases hmem

theorem relationsAt_eq_some (h : files.root.Sound) (hsome : relationsAt files pattern raw = some p) :
    Offers files pattern raw p ∧ ∀ q, Offers files pattern raw q → q = p ∨ p.parts < q.parts := by
  have hfolder : files.isFolderAt (.ofText raw) = true := by
    by_contra hno
    simp [relationsAt, hno] at hsome
  have hhead : (files.search (.ofText raw) pattern).head? = some p := by
    simpa [relationsAt, hfolder] using hsome
  obtain ⟨rest, hsearch⟩ := List.head?_eq_some_iff.mp hhead
  have hincreasing : Path.Increasing (p :: rest) := hsearch ▸ Files.increasing_search h
  refine ⟨(offers_iff h).mpr ⟨hfolder, List.mem_of_mem_head? hhead⟩, fun q hq => ?_⟩
  have hmem := ((offers_iff h).mp hq).2
  rw [hsearch] at hmem
  obtain rfl | hrest := List.mem_cons.mp hmem
  · exact Or.inl rfl
  · exact Or.inr ((List.pairwise_cons.mp hincreasing).1 q hrest)

theorem belongTo_gather (h : files.root.Sound) (scriptPattern relationsPattern : Text)
    (paths : List Text) : BelongTo files scriptPattern relationsPattern paths
      (gather files scriptPattern relationsPattern paths) := by
  constructor
  · refine ⟨paths.map (scriptsAt files scriptPattern), ?_, List.flatMap_def⟩
    rw [List.forall₂_map_right_iff, List.forall₂_same]
    exact fun raw _ => gives_scriptsAt h scriptPattern raw
  · rw [gather]
    cases hfound : paths.findSome? (relationsAt files relationsPattern) with
    | none =>
      exact .nothing fun raw hraw =>
        relationsAt_eq_none h (List.findSome?_eq_none_iff.mp hfound raw hraw)
    | some p =>
      obtain ⟨front, raw, rest, hpaths, hsome, hfront⟩ := List.findSome?_eq_some_iff.mp hfound
      obtain ⟨hp, hleast⟩ := relationsAt_eq_some h hsome
      refine .least hpaths (fun other hother => ?_) hp hleast
      exact relationsAt_eq_none h (hfront other hother)

/-- A search is refused, or everything is gathered. -/
theorem collect_cases (files : Files) (scriptPattern relationsPattern : Text) (paths : List Text) :
    (∃ fault, Refuses files scriptPattern relationsPattern paths fault ∧
        collect files scriptPattern relationsPattern paths = .error fault) ∨
      (∀ fault, ¬ Refuses files scriptPattern relationsPattern paths fault) ∧
        collect files scriptPattern relationsPattern paths =
          .ok (gather files scriptPattern relationsPattern paths) := by
  unfold collect
  cases hfault : (Pattern.refusal? scriptPattern).or (Pattern.refusal? relationsPattern) with
  | none =>
    refine Or.inr ⟨fun fault h => ?_, rfl⟩
    cases hfault.symm.trans h.refused
  | some fault =>
    cases hfolder : paths.any fun raw => files.isFolderAt (.ofText raw) with
    | true => exact Or.inl ⟨fault, ⟨List.any_eq_true.mp hfolder, hfault⟩, rfl⟩
    | false =>
      refine Or.inr ⟨fun fault h => ?_, rfl⟩
      rw [← Bool.not_eq_true] at hfolder
      exact hfolder (List.any_eq_true.mpr h.folder)

theorem collect_relisted (h : files.root.Sound) (hrelisted : files.Relisted files')
    (scriptPattern relationsPattern : Text) (paths : List Text) :
    collect files' scriptPattern relationsPattern paths =
      collect files scriptPattern relationsPattern paths := by
  have hfolder (p : Path) : files'.isFolderAt p = files.isFolderAt p :=
    ((hrelisted.alike h).isFolderAt_eq p).symm
  have hscripts : scriptsAt files' scriptPattern = scriptsAt files scriptPattern := by
    funext raw
    rw [scriptsAt, scriptsAt, hfolder, hrelisted.search_eq h]
  have hrelations : relationsAt files' relationsPattern = relationsAt files relationsPattern := by
    funext raw
    rw [relationsAt, relationsAt, hfolder, hrelisted.search_eq h]
  simp only [collect, gather, hscripts, hrelations, hfolder]

/-- What a run reads belongs to its paths, unless a pattern is refused, and it does not depend on the
order in which a search tells what its pattern selects or in which the folders tell their entries. -/
theorem collect_repeatable (h : files.root.Sound) (scriptPattern relationsPattern : Text)
    (paths : List Text) :
    ((∃ fault, Refuses files scriptPattern relationsPattern paths fault ∧
          collect files scriptPattern relationsPattern paths = .error fault) ∨
        (∀ fault, ¬ Refuses files scriptPattern relationsPattern paths fault) ∧
          ∃ found, collect files scriptPattern relationsPattern paths = .ok found ∧
            BelongTo files scriptPattern relationsPattern paths found) ∧
      (∀ here pattern told, files.Tells here pattern told →
        files.search here pattern = Path.sort (told.filter files.isFileAt)) ∧
      ∀ files', files.Relisted files' → collect files' scriptPattern relationsPattern paths =
        collect files scriptPattern relationsPattern paths := by
  refine ⟨?_, fun _ _ _ htold => htold.search_eq h,
    fun _ hrelisted => collect_relisted h hrelisted scriptPattern relationsPattern paths⟩
  rcases collect_cases files scriptPattern relationsPattern paths with hrefused | ⟨hnone, hgathered⟩
  · exact Or.inl hrefused
  · exact Or.inr ⟨hnone, _, hgathered, belongTo_gather h scriptPattern relationsPattern paths⟩

/-- Two folders with scripts, and files for relations in one of them and below it. -/
def notesTree : FileTree := .folder
  [("n".toList, .folder [("c.sql".toList, .file [])]),
    ("m".toList, .folder
      [("a-b.sql".toList, .file []),
        ("z.dbml".toList, .file []),
        ("a".toList, .folder [("b.dbml".toList, .file []), ("b.sql".toList, .file [])])])]

/-- The same files, told in another order at the top and inside of both folders in question. -/
def turnedTree : FileTree := .folder
  [("m".toList, .folder
      [("a".toList, .folder [("b.sql".toList, .file []), ("b.dbml".toList, .file [])]),
        ("z.dbml".toList, .file []),
        ("a-b.sql".toList, .file [])]),
    ("n".toList, .folder [("c.sql".toList, .file [])])]

/-- The files of both listings below a working folder. -/
def notesFiles : Files := ⟨.folder [("w".toList, notesTree)], ["w".toList]⟩

def turnedFiles : Files := ⟨.folder [("w".toList, turnedTree)], ["w".toList]⟩

/-- A folder from the root, a file, and the other folder by the way back. -/
def notesPaths : List Text := ["/w/n".toList, "x.sql".toList, "../w/m".toList]

def notesInputs : Inputs where
  scripts := [⟨['/'], ["w".toList, "n".toList, "c.sql".toList]⟩, ⟨[], ["x.sql".toList]⟩,
    ⟨[], ["..".toList, "w".toList, "m".toList, "a".toList, "b.sql".toList]⟩,
    ⟨[], ["..".toList, "w".toList, "m".toList, "a-b.sql".toList]⟩]
  relations := some ⟨[], ["..".toList, "w".toList, "m".toList, "a".toList, "b.dbml".toList]⟩

/-- The scripts below one of the folders, told against their order. -/
def toldPaths : List Path :=
  [⟨[], ["m".toList, "a-b.sql".toList]⟩, ⟨[], ["m".toList, "a".toList, "b.sql".toList]⟩]

theorem collect_repeatable_notes : notesFiles.root.Sound ∧ notesFiles.Relisted turnedFiles ∧
    notesFiles.Tells (.ofText "m".toList) "*.sql".toList toldPaths ∧
    BelongTo notesFiles "*.sql".toList "*.dbml".toList notesPaths notesInputs ∧
    notesFiles.search (.ofText "m".toList) "*.sql".toList =
      Path.sort (toldPaths.filter notesFiles.isFileAt) ∧
    collect turnedFiles "*.sql".toList "*.dbml".toList notesPaths = .ok notesInputs := by
  have hinner : (FileTree.folder
      [("b.dbml".toList, .file []), ("b.sql".toList, .file [])]).Sound := by
    refine .folder (by decide) (by decide) ?_
    simp [FileTree.Sound.file]
  have htree : notesTree.Sound := by
    refine .folder (by decide) (by decide) ?_
    rw [List.forall_mem_cons, List.forall_mem_singleton]
    refine ⟨.folder (by decide) (by decide) ?_, .folder (by decide) (by decide) ?_⟩
    · simp [FileTree.Sound.file]
    · simpa [FileTree.Sound.file] using hinner
  have hsound : notesFiles.root.Sound :=
    .folder (by decide) (by decide) (List.forall_mem_singleton.mpr htree)
  have hturned : notesTree.Relisted turnedTree := by
    refine .trans (.reorder (.swap _ _ [])) (.inside [] ?_)
    exact .trans (.reorder (List.reverse_perm _).symm) (.inside [] (.reorder (.swap _ _ [])))
  have hrelisted : notesFiles.Relisted turnedFiles := ⟨.inside [] hturned, rfl⟩
  have htold : notesFiles.Tells (.ofText "m".toList) "*.sql".toList toldPaths := by
    have hsearch : notesFiles.search (.ofText "m".toList) "*.sql".toList = toldPaths.reverse := by
      decide
    exact Files.tells_of_perm hsound (hsearch ▸ (List.reverse_perm toldPaths).symm)
  have hfound : collect notesFiles "*.sql".toList "*.dbml".toList notesPaths = .ok notesInputs :=
    congrArg Except.ok (by decide)
  obtain ⟨hbelong, hsorted, hsame⟩ :=
    collect_repeatable hsound "*.sql".toList "*.dbml".toList notesPaths
  rw [hfound] at hbelong hsame
  rcases hbelong with ⟨_, -, hfault⟩ | ⟨-, found, hcollect, hbelong⟩
  · cases hfault
  · cases hcollect
    exact ⟨hsound, hrelisted, htold, hbelong, hsorted _ _ _ htold, hsame turnedFiles hrelisted⟩

end SchemaDiagram.CommandLine.Inputs
