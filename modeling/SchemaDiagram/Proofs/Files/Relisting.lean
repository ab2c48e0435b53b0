import SchemaDiagram.Proofs.Files.Selection

/-!
Trees that differ only in the order in which their folders tell their entries. The same paths lead
to files and to folders in both, and a search finds the same files in the same order.
-/
namespace SchemaDiagram

namespace FileTree

/-- Another listing of the same tree: a folder tells its entries in another order, at the top or
inside of a folder, and so on with other folders. -/
inductive Relisted : FileTree → FileTree → Prop where
  | refl (t : FileTree) : Relisted t t
  | reorder {entries others : List (Text × FileTree)} (h : entries.Perm others) :
      Relisted (folder entries) (folder others)
  | inside (front : List (Text × FileTree)) {rest : List (Text × FileTree)} {name : Text}
      {t t' : FileTree} (h : Relisted t t') :
      Relisted (folder (front ++ (name, t) :: rest)) (folder (front ++ (name, t') :: rest))
  | trans {t u v : FileTree} (h : Relisted t u) (h' : Relisted u v) : Relisted t v

/-- The same ways lead to files and to folders. -/
def Alike (t t' : FileTree) : Prop :=
  ∀ names, (t.at? names).map isFolder = (t'.at? names).map isFolder

variable {t t' u u' : FileTree} {entries others front rest : List (Text × FileTree)}
  {name other : Text} {names : List Text}

theorem lookup_eq_of_perm (happart : (entries.map (·.1)).Nodup) (h : entries.Perm others)
    (name : Text) : entries.lookup name = others.lookup name := by
  have happart' : (others.map (·.1)).Nodup := (h.map _).nodup_iff.mp happart
  refine Option.ext fun next => ?_
  rw [lookup_eq_some_iff happart, lookup_eq_some_iff happart', h.mem_iff]

theorem lookup_among (name other : Text) (t : FileTree) :
    (front ++ (name, t) :: rest).lookup other =
      (front.lookup other).or (if other = name then some t else rest.lookup other) := by
  rw [List.lookup_append, List.lookup_cons]
  by_cases h : other = name
  · rw [if_pos h, beq_of_eq h]
  · rw [if_neg h, beq_false_of_ne h]

theorem Relisted.sound (h : Relisted t t') (ht : Sound t) : Sound t' := by
  induction h with
  | refl => exact ht
  | reorder hperm =>
    cases ht with
    | folder apart forward below =>
      exact .folder ((hperm.map _).nodup_iff.mp apart)
        (fun entry hentry => forward entry (hperm.mem_iff.mpr hentry))
        (fun entry hentry => below entry (hperm.mem_iff.mpr hentry))
  | @inside front rest name t t' _ ih =>
    cases ht with
    | folder apart forward below =>
      rw [List.forall_mem_append, List.forall_mem_cons] at forward below
      refine .folder (by simpa using apart) ?_ ?_
      · exact List.forall_mem_append.mpr ⟨forward.1, List.forall_mem_cons.mpr forward.2⟩
      · exact List.forall_mem_append.mpr
          ⟨below.1, List.forall_mem_cons.mpr ⟨ih below.2.1, below.2.2⟩⟩
  | trans _ _ ih ih' => exact ih' (ih ht)

theorem Relisted.alike (h : Relisted t t') (ht : Sound t) : Alike t t' := by
  induction h with
  | refl => exact fun _ => rfl
  | @reorder entries others hperm =>
    cases ht with
    | folder apart _ _ =>
      rintro (_ | ⟨name, names⟩)
      · rfl
      · rw [at?, at?, FileTree.entries, FileTree.entries, lookup_eq_of_perm apart hperm]
  | @inside front rest name t t' _ ih =>
    have ht : Sound t := (ht.of_mem (List.mem_append_right front List.mem_cons_self)).2
    rintro (_ | ⟨other, names⟩)
    · rfl
    · rw [at?, at?, FileTree.entries, FileTree.entries, lookup_among, lookup_among]
      cases front.lookup other with
      | some _ => rfl
      | none =>
        by_cases hother : other = name
        · simpa [hother] using ih ht names
        · simp [hother]
  | trans h _ ih ih' => exact fun names => (ih ht names).trans (ih' (h.sound ht) names)

theorem Alike.symm (h : Alike t t') : Alike t' t := fun names => (h names).symm

theorem Alike.exists_at? (h : Alike t t') (hu : t.at? names = some u) :
    ∃ u', t'.at? names = some u' ∧ u'.isFolder = u.isFolder := by
  have hkind := h names
  rw [hu, Option.map_some, eq_comm, Option.map_eq_some_iff] at hkind
  exact hkind

theorem Alike.grown (h : Alike t t') : Grown t t' := by
  intro names u hu
  obtain ⟨u', hu', hkind⟩ := h.exists_at? hu
  exact ⟨u', hu', fun hfolder => hkind.trans hfolder⟩

end FileTree

namespace Files

open FileTree

/-- Another listing of the tree, seen from the same working folder. -/
structure Relisted (f f' : Files) : Prop where
  root : f.root.Relisted f'.root
  here : f.here = f'.here

/-- The same paths lead to files and to folders. -/
structure Alike (f f' : Files) : Prop where
  root : f.root.Alike f'.root
  here : f.here = f'.here

variable {f f' : Files} {p : Path} {u : FileTree}

theorem Relisted.alike (h : Relisted f f') (hf : Sound f.root) : Alike f f' :=
  ⟨h.root.alike hf, h.here⟩

theorem Alike.symm (h : Alike f f') : Alike f' f := ⟨h.root.symm, h.here.symm⟩

theorem Alike.names_eq (h : Alike f f') (p : Path) : f.names p = f'.names p := by
  rw [Files.names, Files.names, h.here]

/-- A path that leads somewhere leads to a node of the same kind in files alike. -/
theorem Alike.exists_node (h : Alike f f') (hu : f.node p = .ok u) :
    ∃ u', f'.node p = .ok u' ∧ u'.isFolder = u.isFolder := by
  obtain ⟨trail, hwalk⟩ := node_eq_ok_iff.mp hu
  rw [h.names_eq] at hwalk
  obtain ⟨hleads, last, u', hwalk', hnames, hleads'⟩ :=
    walk_grown h.root.grown .start .start rfl hwalk
  refine ⟨u', node_eq_ok_iff.mpr ⟨last, hwalk'⟩, ?_⟩
  obtain ⟨v, hv, hkind⟩ := h.root.exists_at? hleads.at?_names
  rw [← hnames, hleads'.at?_names] at hv
  cases hv
  exact hkind

theorem Alike.toOption_node (h : Alike f f') (p : Path) :
    (f.node p).toOption.map FileTree.isFolder = (f'.node p).toOption.map FileTree.isFolder := by
  cases hu : f.node p with
  | ok u =>
    obtain ⟨u', hu', hkind⟩ := h.exists_node hu
    simp [hu', Except.toOption, hkind]
  | error fault =>
    cases hu' : f'.node p with
    | error fault' => rfl
    | ok u' =>
      obtain ⟨v, hv, -⟩ := h.symm.exists_node hu'
      cases hu.symm.trans hv

theorem Alike.isFolderAt_eq (h : Alike f f') (p : Path) : f.isFolderAt p = f'.isFolderAt p := by
  rw [isFolderAt, isFolderAt]
  have hkind := congrArg (Option.any id) (h.toOption_node p)
  simpa [Option.any_map] using hkind

theorem Alike.isFileAt_eq (h : Alike f f') (p : Path) : f.isFileAt p = f'.isFileAt p := by
  have hkind := congrArg (Option.any not) (h.toOption_node p)
  simpa [isFileAt, Option.any_map] using hkind

/-- A search does not depend on the order in which the folders tell their entries. -/
theorem Relisted.search_eq (h : Relisted f f') (hf : Sound f.root) (here : Path) (pattern : Text) :
    f'.search here pattern = f.search here pattern := by
  have hf' : Sound f'.root := h.root.sound hf
  refine (increasing_search hf').eq_of_mem_iff (increasing_search hf) fun p => ?_
  rw [mem_search hf', mem_search hf, (h.alike hf).isFileAt_eq]

end Files
end SchemaDiagram
