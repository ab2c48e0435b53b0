import SchemaDiagram.Proofs.Files.Ordering
import SchemaDiagram.Proofs.Files.Writing

/-!
What a search finds: just the files below the folder whose names the pattern covers, each once and
in increasing order, in whatever order they are told.
-/
namespace SchemaDiagram

/-- The path that goes on with more names. -/
def Path.descend (p : Path) (names : List Text) : Path := { p with parts := p.parts ++ names }

namespace FileTree

/-- A tree as folders make it: each of them names its entries apart, and no entry leads back. -/
inductive Sound : FileTree → Prop where
  | file (content : List UInt8) : Sound (file content)
  | folder {entries : List (Text × FileTree)} (apart : (entries.map (·.1)).Nodup)
      (forward : ∀ entry ∈ entries, entry.1 ≠ ['.', '.'])
      (below : ∀ entry ∈ entries, Sound entry.2) : Sound (folder entries)

/-- Whether a name of a pattern holds one of the signs that stand for other characters. -/
def hasSign (name : Text) : Bool := name.any fun c => c == '*' || c == '?' || c == '['

/-- The names of a pattern cover the names on a way down. Two stars cover the names of folders, so
that another name follows; a name with signs covers each name that it accepts, any other one just
itself. No sign stands for the way back. -/
inductive Covers : List Text → List Text → Prop where
  | nil : Covers [] []
  | stars {pattern names : List Text} {name : Text} (h : Covers pattern (name :: names)) :
      Covers (['*', '*'] :: pattern) (name :: names)
  | under {pattern names : List Text} {name : Text} (hname : name ≠ ['.', '.'])
      (h : Covers (['*', '*'] :: pattern) names) : Covers (['*', '*'] :: pattern) (name :: names)
  | signs {pattern names : List Text} {sign name : Text} (hsign : hasSign sign = true)
      (hstars : sign ≠ ['*', '*']) (hname : name ≠ ['.', '.'])
      (haccepts : (Pattern.ofText sign).accepts name = true) (h : Covers pattern names) :
      Covers (sign :: pattern) (name :: names)
  | itself {pattern names : List Text} {name : Text} (hsign : hasSign name = false)
      (h : Covers pattern names) : Covers (name :: pattern) (name :: names)

/-- A pattern is met by the path of a file that lies anywhere below a folder. One that ends in a
slash asks for folders. -/
def Meets (here : Path) (pattern : Text) (p : Path) : Prop :=
  pattern.getLast? ≠ some '/' ∧
    ∃ names, p = here.descend names ∧ Covers (['*', '*'] :: Path.partsOf pattern) names

variable {t sub next : FileTree} {entries : List (Text × FileTree)} {here p q : Path}
  {name : Text} {names rest pattern : List Text}

@[simp] theorem descend_nil (p : Path) : p.descend [] = p := by
  rw [Path.descend, List.append_nil]

@[simp] theorem child_descend (p : Path) (name : Text) (names : List Text) :
    (p.child name).descend names = p.descend (name :: names) := by
  simp [Path.descend, Path.child]

/-- The path of a walk matters to its faults only. -/
theorem walk_eq_ok_of {trail : Trail} {found : Trail × FileTree}
    (h : walk p trail sub names = .ok found) (q : Path) : walk q trail sub names = .ok found := by
  induction names generalizing trail sub with
  | nil => exact h
  | cons name names ih =>
    obtain ⟨last, u, hstride, hwalk⟩ := walk_cons_iff.mp h
    exact walk_cons_iff.mpr ⟨last, u, hstride, ih hwalk⟩

theorem Stride.isFolder {trail last : Trail} (h : Stride name trail sub last next) :
    sub.isFolder = true := by
  cases h with
  | stay hfolder | back came hfolder => exact hfolder
  | enter _ _ hnext => exact isFolder_of_lookup hnext

theorem lookup_eq_some_iff (h : (entries.map (·.1)).Nodup) :
    entries.lookup name = some next ↔ (name, next) ∈ entries := by
  induction entries with
  | nil => simp
  | cons entry entries ih =>
    obtain ⟨first, u⟩ := entry
    rw [List.map_cons, List.nodup_cons] at h
    rw [List.lookup_cons, List.mem_cons, Prod.mk.injEq]
    by_cases hfirst : name = first
    · have hnone : (name, next) ∉ entries := fun hmem =>
        h.1 (List.mem_map.mpr ⟨_, hmem, hfirst⟩)
      simp [hfirst, hfirst ▸ hnone, eq_comm]
    · simp [beq_false_of_ne hfirst, hfirst, ih h.2]

theorem Sound.lookup_iff (h : Sound sub) :
    sub.entries.lookup name = some next ↔ (name, next) ∈ sub.entries := by
  cases h with
  | file => simp [FileTree.entries]
  | folder apart _ _ => exact lookup_eq_some_iff apart

theorem Sound.of_mem (h : Sound sub) (hmem : (name, next) ∈ sub.entries) :
    name ≠ ['.', '.'] ∧ Sound next := by
  cases h with
  | file => cases hmem
  | folder _ forward below => exact ⟨forward _ hmem, below _ hmem⟩

theorem Sound.of_leads {trail : Trail} (h : Sound t) (hleads : Leads t trail sub) : Sound sub := by
  induction hleads with
  | start => exact h
  | step _ hname ih => exact (ih.of_mem (ih.lookup_iff.mp hname)).2

theorem mem_foldersIn : p ∈ foldersIn here entries ↔
    ∃ entry ∈ entries, p ∈ folders (here.child entry.1) entry.2 := by
  induction entries with
  | nil => simp [foldersIn]
  | cons entry entries ih => simp [foldersIn, ih]

theorem mem_folders_self (h : sub.isFolder = true) : here ∈ folders here sub := by
  cases sub with
  | file => cases h
  | folder entries => exact List.mem_cons_self

theorem mem_folders_of_entry (h : (name, next) ∈ sub.entries)
    (hp : p ∈ folders (here.child name) next) : p ∈ folders here sub := by
  cases sub with
  | file => cases h
  | folder entries => exact List.mem_cons_of_mem here (mem_foldersIn.mpr ⟨_, h, hp⟩)

theorem Covers.descend (hnames : ∀ name ∈ names, name ≠ ['.', '.'])
    (h : Covers (['*', '*'] :: pattern) rest) :
    Covers (['*', '*'] :: pattern) (names ++ rest) := by
  induction names with
  | nil => exact h
  | cons name names ih =>
    exact .under (hnames name List.mem_cons_self)
      (ih fun other hother => hnames other (List.mem_cons_of_mem name hother))

theorem Covers.ne_nil (h : Covers pattern names) (hpattern : pattern ≠ []) : names ≠ [] := by
  cases h with
  | nil => exact (hpattern rfl).elim
  | stars | under | signs | itself => exact List.cons_ne_nil _ _

theorem Meets.root_eq {pattern : Text} (h : Meets here pattern p) : p.root = here.root := by
  obtain ⟨-, names, rfl, -⟩ := h
  rfl

end FileTree

namespace Files

open FileTree

variable {f : Files} {sub next : FileTree} {here p : Path} {name : Text} {names pattern : List Text}

theorem node_eq_ok_iff :
    f.node p = .ok sub ↔ ∃ trail, walk p [] f.root (f.names p) = .ok (trail, sub) := by
  rw [node]
  cases walk p [] f.root (f.names p) with
  | error fault => simp
  | ok found => simp [Prod.ext_iff]

theorem names_descend (f : Files) (p : Path) (names : List Text) :
    f.names (p.descend names) = f.names p ++ names := by
  rw [Files.names, Files.names, Path.descend]
  split
  · rw [List.append_assoc]
  · rfl

theorem names_child (f : Files) (p : Path) (name : Text) :
    f.names (p.child name) = f.names p ++ [name] := names_descend f p [name]

theorem exists_node_of_isFileAt (h : f.isFileAt p = true) :
    ∃ u, f.node p = .ok u ∧ u.isFolder = false := by
  rw [isFileAt] at h
  cases hnode : f.node p with
  | error fault => simp [hnode, Except.toOption] at h
  | ok u => exact ⟨u, rfl, by simpa [hnode, Except.toOption] using h⟩

/-- A way to a file leads through a folder and goes on with one name, and with others or not. -/
structure Passes (f : Files) (here : Path) (name : Text) (names : List Text)
    (sub next : FileTree) : Prop where
  node : f.node here = .ok sub
  child : f.node (here.child name) = .ok next
  folder : sub.isFolder = true
  entry : name ≠ ['.', '.'] → sub.entries.lookup name = some next
  further : names ≠ [] → next.isFolder = true

theorem exists_passes (h : f.isFileAt (here.descend (name :: names)) = true) :
    ∃ sub next, Passes f here name names sub next := by
  obtain ⟨u, hnode, -⟩ := exists_node_of_isFileAt h
  obtain ⟨trail, hwalk⟩ := node_eq_ok_iff.mp hnode
  rw [names_descend] at hwalk
  obtain ⟨last, sub, hhere, hbelow⟩ := walk_append_iff.mp hwalk
  obtain ⟨last', next, hstride, hrest⟩ := walk_cons_iff.mp hbelow
  have hchild : walk (here.child name) [] f.root (f.names (here.child name)) = .ok (last', next) := by
    rw [names_child]
    exact walk_append_iff.mpr ⟨last, sub, walk_eq_ok_of hhere _,
      walk_cons_iff.mpr ⟨last', next, hstride, by rw [walk]⟩⟩
  refine ⟨sub, next, ?_⟩
  constructor
  case node => exact node_eq_ok_iff.mpr ⟨last, walk_eq_ok_of hhere here⟩
  case child => exact node_eq_ok_iff.mpr ⟨last', hchild⟩
  case folder => exact hstride.isFolder
  case entry =>
    intro hname
    cases hstride with
    | stay | back => exact (hname rfl).elim
    | enter _ _ hnext => exact hnext
  case further =>
    intro hne
    obtain ⟨other, others, rfl⟩ := List.exists_cons_of_ne_nil hne
    obtain ⟨_, _, hnext, -⟩ := walk_cons_iff.mp hrest
    exact hnext.isFolder

theorem node_child (h : f.node here = .ok sub) (hname : name ≠ ['.', '.'])
    (hnext : sub.entries.lookup name = some next) : f.node (here.child name) = .ok next := by
  obtain ⟨trail, hwalk⟩ := node_eq_ok_iff.mp h
  have hchild : walk (here.child name) [] f.root (f.names (here.child name)) =
      .ok ((name, sub) :: trail, next) := by
    rw [names_child]
    exact walk_append_iff.mpr ⟨trail, sub, walk_eq_ok_of hwalk _,
      walk_cons_iff.mpr ⟨_, next, .enter trail hname hnext, by rw [walk]⟩⟩
  exact node_eq_ok_iff.mpr ⟨_, hchild⟩

theorem isFolderAt_of_node (h : f.node p = .ok sub) : f.isFolderAt p = sub.isFolder := by
  rw [isFolderAt, h]
  rfl

/-- No path leads to a file and to a folder. -/
theorem isFolderAt_of_isFileAt (h : f.isFileAt p = true) : f.isFolderAt p = false := by
  obtain ⟨u, hnode, hfile⟩ := exists_node_of_isFileAt h
  rw [isFolderAt_of_node hnode, hfile]

theorem sound_of_node (h : Sound f.root) (hnode : f.node p = .ok sub) : Sound sub := by
  obtain ⟨trail, hwalk⟩ := node_eq_ok_iff.mp hnode
  obtain ⟨hleads, -⟩ := walk_grown (fun _ u hu => ⟨u, hu, id⟩) .start .start rfl hwalk
  exact h.of_leads hleads

theorem Passes.mem_entries (h : Passes f here name names sub next) (hf : Sound f.root)
    (hname : name ≠ ['.', '.']) : (name, next) ∈ sub.entries :=
  (sound_of_node hf h.node).lookup_iff.mp (h.entry hname)

/-- The folders below a folder lie on ways that never lead back. -/
theorem exists_of_mem_folders (hsub : Sound sub) (hnode : f.node here = .ok sub)
    (h : p ∈ folders here sub) :
    ∃ names, p = here.descend names ∧ (∀ name ∈ names, name ≠ ['.', '.']) ∧
      f.isFolderAt p = true := by
  induction hsub generalizing here with
  | file content => cases h
  | @folder entries apart forward below ih =>
    obtain rfl | hbelow := List.mem_cons.mp h
    · exact ⟨[], (descend_nil p).symm, by simp, isFolderAt_of_node hnode⟩
    · obtain ⟨entry, hentry, hp⟩ := mem_foldersIn.mp hbelow
      have hname : entry.1 ≠ ['.', '.'] := forward entry hentry
      have hchild : f.node (here.child entry.1) = .ok entry.2 :=
        node_child hnode hname ((lookup_eq_some_iff apart).mpr hentry)
      obtain ⟨names, rfl, hnames, hfolder⟩ := ih entry hentry hchild hp
      refine ⟨entry.1 :: names, child_descend here entry.1 names, ?_, hfolder⟩
      rintro name (_ | ⟨_, hmem⟩)
      · exact hname
      · exact hnames name hmem

theorem mem_select_stars : p ∈ f.select here (['*', '*'] :: pattern) ↔
    ∃ sub, f.node here = .ok sub ∧ ∃ q ∈ folders here sub, p ∈ f.select q pattern := by
  rw [select, if_pos BEq.rfl]
  cases f.node here with
  | error fault => simp
  | ok sub => simp

theorem mem_select_signs (hsign : hasSign name = true) (hstars : name ≠ ['*', '*']) :
    p ∈ f.select here (name :: pattern) ↔ ∃ sub, f.node here = .ok sub ∧
      ∃ entry ∈ sub.entries, (Pattern.ofText name).accepts entry.1 = true ∧
        (pattern = [] ∨ entry.2.isFolder = true) ∧ p ∈ f.select (here.child entry.1) pattern := by
  rw [hasSign] at hsign
  rw [select, if_neg (by simpa using hstars), if_pos hsign]
  cases f.node here with
  | error fault => simp
  | ok sub =>
    simp only [List.mem_flatMap, List.mem_filter, List.mem_ite_nil_right, Bool.or_eq_true,
      List.isEmpty_iff, Except.ok.injEq, exists_eq_left', and_assoc]

theorem mem_select_itself (hsign : hasSign name = false) : p ∈ f.select here (name :: pattern) ↔
    f.exists? (here.child name) = true ∧ p ∈ f.select (here.child name) pattern := by
  have hstars : (name == ['*', '*']) = false := by
    apply beq_false_of_ne
    rintro rfl
    cases hsign
  rw [hasSign] at hsign
  rw [select, hstars, hsign]
  simp

/-- A file that is selected has names that the pattern covers. -/
theorem covers_of_mem_select (hf : Sound f.root) (hfile : f.isFileAt p = true)
    (h : p ∈ f.select here pattern) : ∃ names, p = here.descend names ∧ Covers pattern names := by
  induction pattern generalizing here with
  | nil =>
    obtain rfl := List.mem_singleton.mp h
    exact ⟨[], (descend_nil p).symm, .nil⟩
  | cons sign pattern ih =>
    by_cases hstars : sign = ['*', '*']
    · subst hstars
      obtain ⟨sub, hnode, q, hq, hp⟩ := mem_select_stars.mp h
      obtain ⟨names, rfl, hnames, hfolder⟩ :=
        exists_of_mem_folders (sound_of_node hf hnode) hnode hq
      obtain ⟨rest, rfl, hcovers⟩ := ih hp
      have hrest : rest ≠ [] := by
        rintro rfl
        rw [descend_nil] at hfile
        rw [isFolderAt_of_isFileAt hfile] at hfolder
        cases hfolder
      obtain ⟨name, rest, rfl⟩ := List.exists_cons_of_ne_nil hrest
      refine ⟨names ++ name :: rest, ?_, .descend hnames (.stars hcovers)⟩
      simp [Path.descend]
    · cases hsign : hasSign sign with
      | true =>
        obtain ⟨sub, hnode, entry, hentry, haccepts, -, hp⟩ := (mem_select_signs hsign hstars).mp h
        obtain ⟨hname, -⟩ := (sound_of_node hf hnode).of_mem hentry
        obtain ⟨names, rfl, hcovers⟩ := ih hp
        exact ⟨entry.1 :: names, child_descend here entry.1 names,
          .signs hsign hstars hname haccepts hcovers⟩
      | false =>
        obtain ⟨-, hp⟩ := (mem_select_itself hsign).mp h
        obtain ⟨names, rfl, hcovers⟩ := ih hp
        exact ⟨sign :: names, child_descend here sign names, .itself hsign hcovers⟩

/-- A file whose names a pattern covers is selected. -/
theorem mem_select_of_covers (hf : Sound f.root) (h : Covers pattern names)
    (hfile : f.isFileAt (here.descend names) = true) :
    here.descend names ∈ f.select here pattern := by
  induction h generalizing here with
  | nil => simp [select]
  | @stars pattern names name _ ih =>
    obtain ⟨sub, next, hpasses⟩ := exists_passes hfile
    exact mem_select_stars.mpr
      ⟨sub, hpasses.node, here, mem_folders_self hpasses.folder, ih hfile⟩
  | @under pattern names name hname _ ih =>
    obtain ⟨sub, next, hpasses⟩ := exists_passes hfile
    have hentry : (name, next) ∈ sub.entries := hpasses.mem_entries hf hname
    rw [← child_descend] at hfile ⊢
    obtain ⟨next', hnext', q, hq, hp⟩ := mem_select_stars.mp (ih hfile)
    cases hpasses.child.symm.trans hnext'
    exact mem_select_stars.mpr ⟨sub, hpasses.node, q, mem_folders_of_entry hentry hq, hp⟩
  | @signs pattern names sign name hsign hstars hname haccepts hcovers ih =>
    obtain ⟨sub, next, hpasses⟩ := exists_passes hfile
    have hentry : (name, next) ∈ sub.entries := hpasses.mem_entries hf hname
    have hfolder : pattern = [] ∨ next.isFolder = true := by
      by_cases hpattern : pattern = []
      · exact Or.inl hpattern
      · exact Or.inr (hpasses.further (hcovers.ne_nil hpattern))
    rw [← child_descend] at hfile ⊢
    exact (mem_select_signs hsign hstars).mpr
      ⟨sub, hpasses.node, _, hentry, haccepts, hfolder, ih hfile⟩
  | @itself pattern names name hsign _ ih =>
    obtain ⟨sub, next, hpasses⟩ := exists_passes hfile
    have hexists : f.exists? (here.child name) = true := by
      rw [exists?, hpasses.child]
      rfl
    rw [← child_descend] at hfile ⊢
    exact (mem_select_itself hsign).mpr ⟨hexists, ih hfile⟩

section Search

variable {pattern : Text} {ps : List Path}

/-- One telling of what a pattern selects below a folder: each path once, in whatever order, also
with folders among them. -/
structure Tells (f : Files) (here : Path) (pattern : Text) (ps : List Path) : Prop where
  once : ps.Nodup
  files : ∀ p, f.isFileAt p = true → (p ∈ ps ↔ Meets here pattern p)

theorem mem_search (hf : Sound f.root) :
    p ∈ f.search here pattern ↔ f.isFileAt p = true ∧ Meets here pattern p := by
  by_cases hslash : pattern.getLast? = some '/'
  · simp [search, Meets, hslash]
  · rw [search, if_neg (by simpa using hslash), Path.mem_sort, List.mem_eraseDups, List.mem_filter]
    constructor
    · rintro ⟨hp, hfile⟩
      exact ⟨hfile, hslash, covers_of_mem_select hf hfile hp⟩
    · rintro ⟨hfile, -, names, rfl, hcovers⟩
      exact ⟨mem_select_of_covers hf hcovers hfile, hfile⟩

theorem nodup_eraseDups (ps : List Path) : ps.eraseDups.Nodup := by
  induction hn : ps.length using Nat.strong_induction_on generalizing ps with
  | h n ih =>
    cases ps with
    | nil => exact List.nodup_nil
    | cons p ps =>
      have hshorter : (ps.filter fun q => !q == p).length < n := by
        have := List.length_filter_le (fun q => !q == p) ps
        rw [List.length_cons] at hn
        omega
      rw [List.eraseDups_cons, List.nodup_cons]
      exact ⟨by simp, ih _ hshorter _ rfl⟩

theorem increasing_search (hf : Sound f.root) : Path.Increasing (f.search here pattern) := by
  have hroot (p : Path) (hp : p ∈ f.search here pattern) : p.root = here.root :=
    ((mem_search hf).mp hp).2.root_eq
  rw [search] at hroot ⊢
  split
  · exact List.Pairwise.nil
  · next hslash =>
    rw [if_neg hslash] at hroot
    exact Path.increasing_sort (nodup_eraseDups _) fun p hp => hroot p (Path.mem_sort.mpr hp)

/-- A search sorts the files out of any telling of what its pattern selects. -/
theorem Tells.search_eq (h : Tells f here pattern ps) (hf : Sound f.root) :
    f.search here pattern = Path.sort (ps.filter f.isFileAt) := by
  have hmem (p : Path) :
      p ∈ ps.filter f.isFileAt ↔ f.isFileAt p = true ∧ Meets here pattern p := by
    rw [List.mem_filter, and_comm]
    exact and_congr_right fun hfile => h.files p hfile
  have hincreasing : Path.Increasing (Path.sort (ps.filter f.isFileAt)) :=
    Path.increasing_sort (h.once.filter _) fun p hp => ((hmem p).mp hp).2.root_eq
  refine (increasing_search hf).eq_of_mem_iff hincreasing fun p => ?_
  rw [mem_search hf, Path.mem_sort, hmem]

/-- The files that a search finds tell what its pattern selects, in any order. -/
theorem tells_of_perm (hf : Sound f.root) (h : ps.Perm (f.search here pattern)) :
    Tells f here pattern ps := by
  have hnodup : (f.search here pattern).Nodup := by
    refine (increasing_search hf).imp fun {p q} hlt => ?_
    rintro rfl
    exact List.lt_irrefl p.parts hlt
  refine ⟨h.nodup_iff.mpr hnodup, fun p hfile => ?_⟩
  rw [h.mem_iff, mem_search hf]
  exact and_iff_right hfile

end Search

end Files
end SchemaDiagram
