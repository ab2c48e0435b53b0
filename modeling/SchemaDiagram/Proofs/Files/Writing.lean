import SchemaDiagram.Files.Tree
import SchemaDiagram.Proofs.Text.Utf8

/-!
Reading and writing a tree. A file that is written stands at its path afterwards, also where the
path leads through folders and back, and all other files and folders stay.
-/
namespace SchemaDiagram

namespace FileTree

/-- What a file holds. -/
def content? : FileTree → Option (List UInt8)
  | file content => some content
  | folder _ => none

/-- What stands at the end of some names, none of which leads back. -/
def at? : FileTree → List Text → Option FileTree
  | t, [] => some t
  | t, name :: names => (t.entries.lookup name).bind (at? · names)

/-- What the file at the end of some names holds. -/
def contentAt? (t : FileTree) (names : List Text) : Option (List UInt8) :=
  (t.at? names).bind content?

/-- There is a place for a file at the end of some names: a folder that has another file there,
or nothing. -/
inductive Fits : FileTree → List Text → Prop where
  | last {t : FileTree} {name : Text} (ht : t.isFolder = true)
      (h : (t.entries.lookup name).any isFolder = false) : Fits t [name]
  | step {t next : FileTree} {name : Text} {names : List Text}
      (h : t.entries.lookup name = some next) (hnext : Fits next names) : Fits t (name :: names)

/-- The way from the root of a tree to a place. -/
inductive Leads (t : FileTree) : Trail → FileTree → Prop where
  | start : Leads t [] t
  | step {trail : Trail} {above next : FileTree} {name : Text} (h : Leads t trail above)
      (hname : above.entries.lookup name = some next) : Leads t ((name, above) :: trail) next

/-- One step of a walk: back to the folder above, if there is one, or on to an entry of a folder. -/
inductive Stride : Text → Trail → FileTree → Trail → FileTree → Prop where
  | stay {here : FileTree} (h : here.isFolder = true) : Stride ['.', '.'] [] here [] here
  | back {above here : FileTree} {trail : Trail} (came : Text) (h : here.isFolder = true) :
      Stride ['.', '.'] ((came, above) :: trail) here trail above
  | enter {here next : FileTree} {name : Text} (trail : Trail) (hname : name ≠ ['.', '.'])
      (h : here.entries.lookup name = some next) : Stride name trail here ((name, here) :: trail) next

/-- The names on a way, the first one first. -/
def Trail.names (trail : Trail) : List Text := (trail.map (·.1)).reverse

/-- Whatever stands in the first tree stands in the second one, folders as folders. -/
def Grown (t t' : FileTree) : Prop :=
  ∀ names u, t.at? names = some u →
    ∃ u', t'.at? names = some u' ∧ (u.isFolder = true → u'.isFolder = true)

variable {t t' u here here' next content : FileTree} {entries : List (Text × FileTree)}
  {trail trail' : Trail} {name : Text} {names : List Text} {p : Path} {bytes : List UInt8}

theorem at?_append (t : FileTree) (names others : List Text) :
    t.at? (names ++ others) = (t.at? names).bind (at? · others) := by
  induction names generalizing t with
  | nil => rfl
  | cons name names ih =>
    rw [List.cons_append, at?, at?]
    cases t.entries.lookup name with
    | none => rfl
    | some next => exact ih next

theorem at?_concat (h : t.at? names = some here) (name : Text) :
    t.at? (names ++ [name]) = here.entries.lookup name := by
  have hlast : here.at? [name] = here.entries.lookup name := by
    rw [at?]
    cases here.entries.lookup name <;> rfl
  rw [at?_append, h, Option.bind_some, hlast]

theorem isFolder_of_lookup (h : t.entries.lookup name = some next) : t.isFolder = true := by
  cases t with
  | file => cases h
  | folder => rfl

theorem lookup_replace_self (h : (entries.lookup name).isSome = true) :
    (entries.map fun entry => if entry.1 == name then (name, u) else entry).lookup name =
      some u := by
  induction entries with
  | nil => cases h
  | cons entry entries ih =>
    obtain ⟨first, v⟩ := entry
    by_cases hfirst : first = name
    · rw [List.map_cons, if_pos (beq_of_eq hfirst), List.lookup_cons, BEq.rfl]
    · have hne : (name == first) = false := beq_false_of_ne (Ne.symm hfirst)
      rw [List.lookup_cons, hne] at h
      rw [List.map_cons, if_neg (ne_true_of_eq_false (beq_false_of_ne hfirst)), List.lookup_cons,
        hne]
      exact ih h

theorem lookup_replace_other {other : Text} (h : other ≠ name) :
    (entries.map fun entry => if entry.1 == name then (name, u) else entry).lookup other =
      entries.lookup other := by
  induction entries with
  | nil => rfl
  | cons entry entries ih =>
    obtain ⟨first, v⟩ := entry
    by_cases hfirst : first = name
    · have hne : (other == first) = false := beq_false_of_ne (hfirst ▸ h)
      rw [List.map_cons, if_pos (beq_of_eq hfirst), List.lookup_cons, List.lookup_cons, hne,
        beq_false_of_ne h]
      exact ih
    · rw [List.map_cons, if_neg (ne_true_of_eq_false (beq_false_of_ne hfirst)), List.lookup_cons,
        List.lookup_cons, ih]

theorem lookup_place (t content : FileTree) (name other : Text) (names : List Text) :
    (t.place content (name :: names)).entries.lookup other =
      if other = name then some (((t.entries.lookup name).getD empty).place content names)
      else t.entries.lookup other := by
  by_cases hother : other = name
  · subst hother
    rw [if_pos rfl, place]
    split
    · next h => exact lookup_replace_self h
    · next h =>
      rw [Bool.not_eq_true, Option.isSome_eq_false_iff, Option.isNone_iff_eq_none] at h
      rw [entries, List.lookup_append, h, List.lookup_cons, BEq.rfl]
      rfl
  · rw [if_neg hother, place]
    split
    · exact lookup_replace_other hother
    · rw [entries, List.lookup_append, List.lookup_cons, beq_false_of_ne hother]
      exact Option.or_none

theorem isFolder_place (t content : FileTree) (name : Text) (names : List Text) :
    (t.place content (name :: names)).isFolder = true := by
  rw [place]
  split <;> rfl

theorem at?_place_cons (t content : FileTree) (name other : Text) (names others : List Text) :
    (t.place content (name :: names)).at? (other :: others) =
      if other = name then (((t.entries.lookup name).getD empty).place content names).at? others
      else t.at? (other :: others) := by
  rw [at?, lookup_place]
  split <;> rfl

theorem at?_place_self (t content : FileTree) (names : List Text) :
    (t.place content names).at? names = some content := by
  induction names generalizing t with
  | nil => rfl
  | cons name names ih => rw [at?_place_cons, if_pos rfl, ih]

/-- Nothing stands below a file. -/
theorem at?_eq_some_of_file {others : List Text} (ht : t.isFolder = false)
    (h : t.at? others = some u) : others = [] ∧ u = t := by
  cases others with
  | nil => exact ⟨rfl, (Option.some.inj h).symm⟩
  | cons name others =>
    obtain ⟨next, hnext, -⟩ := Option.bind_eq_some_iff.mp h
    simp [isFolder_of_lookup hnext] at ht

theorem contentAt?_nil (h : t.isFolder = true) : t.contentAt? [] = none := by
  cases t with
  | file => cases h
  | folder => rfl

theorem contentAt?_place_cons (t content : FileTree) (name other : Text)
    (names others : List Text) : (t.place content (name :: names)).contentAt? (other :: others) =
      if other = name then
        (((t.entries.lookup name).getD empty).place content names).contentAt? others
      else t.contentAt? (other :: others) := by
  rw [contentAt?, at?_place_cons]
  split <;> rfl

theorem contentAt?_below (h : t.isFolder = false) (name : Text) (names : List Text) :
    t.contentAt? (name :: names) = none := by
  cases t with
  | file => rfl
  | folder => cases h

/-- Of all files only the one that is placed changes. -/
theorem Fits.contentAt?_place (h : Fits t names) (others : List Text) :
    (t.place (file bytes) names).contentAt? others =
      if others = names then some bytes else t.contentAt? others := by
  induction h generalizing others with
  | @last t name ht hfile =>
    cases others with
    | nil =>
      rw [contentAt?_nil (isFolder_place t _ name []), contentAt?_nil ht]
      rfl
    | cons other others =>
      rw [contentAt?_place_cons]
      by_cases hother : other = name
      · subst hother
        cases others with
        | nil => simp [place, contentAt?, at?, content?]
        | cons next others =>
          have hbelow : t.contentAt? (other :: next :: others) = none := by
            rw [contentAt?, at?]
            cases hv : t.entries.lookup other with
            | none => rfl
            | some v =>
              rw [hv] at hfile
              exact contentAt?_below hfile next others
          simp [place, hbelow, contentAt?_below (t := file bytes) rfl]
      · simp [hother]
  | @step t next name names h hnext ih =>
    cases others with
    | nil =>
      rw [contentAt?_nil (isFolder_place t _ name names), contentAt?_nil (isFolder_of_lookup h)]
      rfl
    | cons other others =>
      rw [contentAt?_place_cons, h, Option.getD_some, ih]
      by_cases hother : other = name
      · subst hother
        simp [contentAt?, at?, h]
      · simp [hother]

theorem Fits.grown (h : Fits t names) : Grown t (t.place (file bytes) names) := by
  induction h with
  | @last t name ht h =>
    rintro others u hu
    cases others with
    | nil => exact ⟨_, rfl, fun _ => isFolder_place t _ name []⟩
    | cons other others =>
      rw [at?_place_cons]
      split
      · next hother =>
        subst hother
        obtain ⟨v, hv, hu⟩ := Option.bind_eq_some_iff.mp hu
        have hfile : v.isFolder = false := by simpa [hv] using h
        obtain ⟨rfl, rfl⟩ := at?_eq_some_of_file hfile hu
        exact ⟨_, rfl, fun hfolder => by simp [hfile] at hfolder⟩
      · exact ⟨u, hu, id⟩
  | @step t next name names h hnext ih =>
    rintro others u hu
    cases others with
    | nil => exact ⟨_, rfl, fun _ => isFolder_place t _ name names⟩
    | cons other others =>
      rw [at?_place_cons, h]
      split
      · next hother =>
        subst hother
        rw [at?, h] at hu
        exact ih others u hu
      · exact ⟨u, hu, id⟩

theorem Trail.names_cons (name : Text) (t : FileTree) (trail : Trail) :
    Trail.names ((name, t) :: trail) = trail.names ++ [name] := by
  rw [Trail.names, List.map_cons, List.reverse_cons]
  rfl

theorem Trail.eq_cons (h : trail'.names = Trail.names ((name, here) :: trail)) :
    ∃ here', trail' = (name, here') :: trail'.tail ∧ Trail.names trail'.tail = trail.names := by
  cases trail' with
  | nil => simp [Trail.names] at h
  | cons entry rest =>
    obtain ⟨came, here'⟩ := entry
    rw [Trail.names_cons, Trail.names_cons] at h
    obtain ⟨hnames, hname⟩ := List.append_inj' h rfl
    obtain rfl := List.singleton_inj.mp hname
    exact ⟨here', rfl, hnames⟩

theorem Leads.at?_names (h : Leads t trail here) : t.at? trail.names = some here := by
  induction h with
  | start => rfl
  | step h hname ih => rw [Trail.names_cons, at?_concat ih, hname]

theorem Leads.fits (h : Leads t trail here) (hfits : Fits here names) :
    Fits t (trail.names ++ names) := by
  induction h generalizing names with
  | start => exact hfits
  | step h hname ih =>
    rw [Trail.names_cons, List.append_assoc, List.singleton_append]
    exact ih (.step hname hfits)

theorem walk_cons_iff {found : Trail × FileTree} :
    walk p trail here (name :: names) = .ok found ↔
      ∃ last u, Stride name trail here last u ∧ walk p last u names = .ok found := by
  rw [walk.eq_def]
  constructor
  · intro h
    dsimp only at h
    split at h
    · cases h
    · next hfolder =>
      have hfolder : here.isFolder = true := by simpa using hfolder
      split at h
      · next hback =>
        obtain rfl : name = ['.', '.'] := eq_of_beq hback
        split at h
        · exact ⟨_, _, .stay hfolder, h⟩
        · exact ⟨_, _, .back _ hfolder, h⟩
      · next hname =>
        split at h
        · next hnext => exact ⟨_, _, .enter trail (by simpa using hname) hnext, h⟩
        · cases h
  · rintro ⟨last, u, hstride, h⟩
    cases hstride with
    | stay hfolder => simpa [hfolder] using h
    | back came hfolder => simpa [hfolder] using h
    | enter _ hname hnext => simpa [isFolder_of_lookup hnext, hname, hnext] using h

theorem walk_append_iff {others : List Text} {found : Trail × FileTree} :
    walk p trail here (names ++ others) = .ok found ↔
      ∃ last u, walk p trail here names = .ok (last, u) ∧ walk p last u others = .ok found := by
  induction names generalizing trail here with
  | nil =>
    constructor
    · rintro h
      exact ⟨trail, here, rfl, h⟩
    · rintro ⟨last, u, hwalk, h⟩
      cases hwalk
      exact h
  | cons name names ih =>
    simp only [List.cons_append, walk_cons_iff, ih]
    constructor
    · rintro ⟨v, w, hstride, last, u, hwalk, h⟩
      exact ⟨last, u, ⟨v, w, hstride, hwalk⟩, h⟩
    · rintro ⟨last, u, ⟨v, w, hstride, hwalk⟩, h⟩
      exact ⟨v, w, hstride, last, u, hwalk, h⟩

theorem Stride.leads {last : Trail} (h : Stride name trail here last u) (hleads : Leads t trail here) :
    Leads t last u := by
  cases h with
  | stay _ => exact hleads
  | back came _ =>
    cases hleads with
    | step hleads _ => exact hleads
  | enter _ _ hnext => exact .step hleads hnext

/-- A step through a tree is a step through a grown one, with the same names behind. -/
theorem Stride.grown {last : Trail} (h : Stride name trail here last u) (hgrown : Grown t t')
    (hleads : Leads t trail here) (hleads' : Leads t' trail' here')
    (hnames : trail'.names = trail.names) :
    ∃ last' u', Stride name trail' here' last' u' ∧ last'.names = last.names := by
  have hkept : here.isFolder = true → here'.isFolder = true := by
    obtain ⟨v, hv, hv'⟩ := hgrown _ here hleads.at?_names
    rw [← hnames, hleads'.at?_names] at hv
    obtain rfl := Option.some.inj hv
    exact hv'
  cases h with
  | stay hfolder =>
    obtain rfl : trail' = [] := by simpa [Trail.names] using hnames
    exact ⟨[], here', .stay (hkept hfolder), rfl⟩
  | back came hfolder =>
    obtain ⟨above', htrail', hsame⟩ := Trail.eq_cons hnames
    rw [htrail']
    exact ⟨_, above', .back came (hkept hfolder), hsame⟩
  | enter _ hname hnext =>
    obtain ⟨next', hnext', -⟩ := hgrown (trail.names ++ [name]) u (by
      rw [at?_concat hleads.at?_names, hnext])
    rw [← hnames, at?_concat hleads'.at?_names] at hnext'
    exact ⟨_, next', .enter trail' hname hnext', by rw [Trail.names_cons, Trail.names_cons, hnames]⟩

/-- A way through a tree is a way through a grown one, with the same names. -/
theorem walk_grown {last : Trail} (hgrown : Grown t t') (h : Leads t trail here)
    (h' : Leads t' trail' here') (hnames : trail'.names = trail.names)
    (hwalk : walk p trail here names = .ok (last, u)) :
    Leads t last u ∧ ∃ last' u', walk p trail' here' names = .ok (last', u') ∧
      last'.names = last.names ∧ Leads t' last' u' := by
  induction names generalizing trail trail' here here' with
  | nil =>
    cases hwalk
    exact ⟨h, trail', here', rfl, hnames, h'⟩
  | cons name names ih =>
    obtain ⟨v, w, hstride, hwalk⟩ := walk_cons_iff.mp hwalk
    obtain ⟨v', w', hstride', hnames'⟩ := hstride.grown hgrown h h' hnames
    obtain ⟨hlast, last', u', hwalk', hsame, hlast'⟩ :=
      ih (hstride.leads h) (hstride'.leads h') hnames' hwalk
    exact ⟨hlast, last', u', walk_cons_iff.mpr ⟨v', w', hstride', hwalk'⟩, hsame, hlast'⟩

end FileTree

namespace Files

open FileTree

/-- A path leads to a name in a folder, where no folder has the name. -/
structure IsPlace (f : Files) (p : Path) (trail : Trail) (above : FileTree) (name : Text) :
    Prop where
  names : f.names p = (f.names p).dropLast ++ [name]
  way : walk p [] f.root (f.names p).dropLast = .ok (trail, above)
  folder : above.isFolder = true
  forward : name ≠ ['.', '.']
  free : (above.entries.lookup name).any FileTree.isFolder = false

/-- The file at a path holds the bytes of a text, which is read with line feeds for line ends. -/
def Holds (f : Files) (p : Path) (text : Text) : Prop :=
  ∃ written, f.node p = .ok (file (Utf8.encode written)) ∧ text = Text.unifyLineEnds written

variable {f f' : Files} {p : Path} {names : List Text} {text : Text}

theorem getLast?_names {name : Text} (h : p.parts.getLast? = some name) :
    (f.names p).getLast? = some name := by
  rw [Files.names]
  split
  · rw [List.getLast?_append, h, Option.some_or]
  · exact h

theorem writable_eq_ok (h : f.writable p = .ok names) :
    ∃ trail above name, f.IsPlace p trail above name ∧ names = trail.names ++ [name] := by
  rw [writable] at h
  split at h
  · cases h
  rename_i name hlast
  split at h
  · cases h
  split at h
  · cases h
  rename_i trail above hwalk
  split at h
  · cases h
  rename_i hfolder
  split at h
  · cases h
  rename_i hname
  split at h
  · cases h
  rename_i hfree
  cases h
  obtain ⟨rest, hnames⟩ := List.getLast?_eq_some_iff.mp (getLast?_names (f := f) hlast)
  have hplace : f.IsPlace p trail above name :=
    { names := by rw [hnames, List.dropLast_concat]
      way := hwalk
      folder := by simpa using hfolder
      forward := by simpa using hname
      free := by simpa using hfree }
  exact ⟨trail, above, name, hplace, rfl⟩

/-- What is written stands at its path, and at one place of the tree, where alone it changes. -/
theorem write_eq_ok (h : f.write p text = .ok f') :
    f'.node p = .ok (file (Utf8.encode text)) ∧ f'.here = f.here ∧
      ∃ names, f.writable p = .ok names ∧ ∀ others, f'.root.contentAt? others =
        if others = names then some (Utf8.encode text) else f.root.contentAt? others := by
  obtain ⟨names, hwritable, rfl⟩ : ∃ names, f.writable p = .ok names ∧
      { f with root := f.root.place (file (Utf8.encode text)) names } = f' := by
    rw [write] at h
    cases hw : f.writable p with
    | error fault =>
      rw [hw] at h
      cases h
    | ok names =>
      rw [hw] at h
      exact ⟨names, rfl, Except.ok.inj h⟩
  obtain ⟨trail, above, name, hplace, rfl⟩ := writable_eq_ok hwritable
  obtain ⟨hleads, -⟩ := walk_grown (fun _ u hu => ⟨u, hu, id⟩) .start .start rfl hplace.way
  have hfits : Fits f.root (trail.names ++ [name]) := hleads.fits (.last hplace.folder hplace.free)
  refine ⟨?_, rfl, _, hwritable, hfits.contentAt?_place⟩
  have hgrown : Grown f.root (f.root.place (file (Utf8.encode text)) (trail.names ++ [name])) :=
    hfits.grown
  obtain ⟨-, last, above', hwalk, hnames, hleads'⟩ :=
    walk_grown hgrown .start .start rfl hplace.way
  have hlast : above'.entries.lookup name = some (file (Utf8.encode text)) := by
    rw [← at?_concat hleads'.at?_names, hnames, at?_place_self]
  have hwhole := walk_append_iff.mpr ⟨last, above', hwalk,
    walk_cons_iff.mpr ⟨(name, above') :: last, _, .enter last hplace.forward hlast, by rw [walk]⟩⟩
  rw [← hplace.names] at hwhole
  exact congrArg (Prod.snd <$> ·) hwhole

theorem read_eq_ok_iff : f.read p = .ok text ↔ f.Holds p text := by
  constructor
  · intro h
    rw [read] at h
    split at h
    · next content hnode =>
      split at h
      · next written hdecode =>
        cases h
        exact ⟨written, Utf8.decode_eq_ok_iff.mp hdecode ▸ hnode, rfl⟩
      · cases h
    · cases h
    · cases h
  · rintro ⟨written, hnode, rfl⟩
    have hdecode : Utf8.decode (Utf8.encode written) = .ok written := Utf8.decode_eq_ok_iff.mpr rfl
    simp only [read, hnode, hdecode]

end Files
end SchemaDiagram
