import SchemaDiagram.Proofs.Postgres.Remarks.Statements

/-!
Pieces of a script that differ in the words of comments. The tokens that they make up are alike, and
so are the statements of the script.
-/
namespace SchemaDiagram.Postgres

namespace Token

/-- Two pieces that agree but for words of comments of which `f` leaves the same. A word has
letters. -/
inductive Piece.Alike (f : Text → Text) : Piece → Piece → Prop where
  | token {kind : TokenKind} {text : Text} (letters : kind = .word → text ≠ []) :
    Alike f (.token kind text) (.token kind text)
  | comment {text text' : Text} (h : f text = f text') : Alike f (.comment text) (.comment text')
  | lineEnd : Alike f .lineEnd .lineEnd
  | blank : Alike f .blank .blank

variable {f : Text → Text} {p p' : Piece} {ps ps' : List Piece} {ts ts' : List Token}
  {g g' : Gathering} {t r text text' : Text} {c : Char}

/-- The comments that wait and the tokens read so far are alike. -/
structure Gathering.Alike (f : Text → Text) (g g' : Gathering) : Prop where
  done : Postgres.Alike f g.done g'.done
  waiting : hushed f g.waiting = hushed f g'.waiting
  onLine : g.onLine = g'.onLine

theorem hushed_append {remarks remarks' : List Text} (h : hushed f remarks = hushed f remarks')
    (ht : f text = f text') : hushed f (remarks ++ [text]) = hushed f (remarks' ++ [text']) := by
  rw [hushed, List.map_append, ← hushed, h, hushed, hushed, List.map_append, List.map_singleton,
    List.map_singleton, ht]

theorem Gathering.Alike.wait (h : g.Alike f g') (ht : f text = f text') :
    Gathering.Alike f { g with waiting := g.waiting ++ [text] }
      { g' with waiting := g'.waiting ++ [text'] } :=
  ⟨h.done, hushed_append h.waiting ht, h.onLine⟩

theorem Gathering.Alike.add (h : g.Alike f g') (hp : p.Alike f p') : (g.add p).Alike f (g'.add p') := by
  cases hp with
  | token letters => exact ⟨.cons (.mk letters h.waiting) h.done, rfl, rfl⟩
  | lineEnd => exact ⟨h.done, h.waiting, rfl⟩
  | blank => exact h
  | comment ht =>
    obtain ⟨done, waiting, onLine⟩ := g
    obtain ⟨done', waiting', onLine'⟩ := g'
    obtain rfl : onLine = onLine' := h.onLine
    cases onLine with
    | false => exact h.wait ht
    | true =>
      obtain hdone : Postgres.Alike f done done' := h.done
      cases hdone with
      | nil => exact h.wait ht
      | cons hlast hts =>
        obtain ⟨letters, hremarks⟩ := hlast
        exact ⟨.cons (.mk letters (hushed_append hremarks ht)) hts, h.waiting, rfl⟩

/-- The tokens of some pieces. -/
def gathered (ps : List Piece) : List Token := (ps.foldl Gathering.add {}).done.reverse

theorem gathered_alike (h : List.Forall₂ (Piece.Alike f) ps ps') :
    Postgres.Alike f (gathered ps) (gathered ps') := by
  have hfold : ∀ {g g' : Gathering}, g.Alike f g' →
      (ps.foldl Gathering.add g).Alike f (ps'.foldl Gathering.add g') := by
    induction h with
    | nil => exact id
    | cons hp _ ih => exact fun hg => ih (hg.add hp)
  exact List.rel_reverse (hfold ⟨.nil, rfl, rfl⟩).done

theorem statements_alike (h : Postgres.Alike f ts ts') :
    List.Forall₂ (Postgres.Alike f) (statements ts) (statements ts') := by
  induction h with
  | nil => exact .cons .nil .nil
  | @cons t t' ts ts' ht hts ih =>
    unfold statements
    rw [Reading.deaf_isSign _ ht]
    split
    · exact .cons .nil ih
    · generalize statements ts = tss, statements ts' = tss' at ih
      cases ih with
      | nil => exact .cons (.cons ht .nil) .nil
      | cons hs hss => exact .cons (.cons ht hs) hss

/-- Pieces that are alike make up statements that are alike, or break the grammar both. -/
theorem ofPieces_alike (h : List.Forall₂ (Piece.Alike f) ps ps') :
    Option.Rel (List.Forall₂ (Statement.Alike f))
      ((statements (gathered ps)).mapM Statement.ofTokens?)
      ((statements (gathered ps')).mapM Statement.ofTokens?) := by
  have hmapM : ∀ {tss tss' : List (List Token)}, List.Forall₂ (Postgres.Alike f) tss tss' →
      Option.Rel (List.Forall₂ (Statement.Alike f)) (tss.mapM Statement.ofTokens?)
        (tss'.mapM Statement.ofTokens?) := by
    intro tss tss' h
    induction h with
    | nil => exact .some .nil
    | @cons ts ts' tss tss' hts _ ih =>
      have hs := Statement.ofTokens?_alike hts
      rw [List.mapM_cons, List.mapM_cons]
      generalize Statement.ofTokens? ts = o, Statement.ofTokens? ts' = o' at hs
      generalize tss.mapM Statement.ofTokens? = os, tss'.mapM Statement.ofTokens? = os' at ih
      cases hs with
      | none => exact .none
      | some hs =>
        cases ih with
        | none => exact .none
        | some hss => exact .some (.cons hs hss)
  exact hmapM (statements_alike (gathered_alike h))

theorem alike_string? {kind : TokenKind} (hk : kind ≠ .word) (h : string? kind t = some (p, r)) :
    p.Alike f p := by
  obtain ⟨found, -, hp⟩ := Option.map_eq_some_iff.mp h
  cases hp
  exact .token fun h => absurd h hk

theorem alike_dollar? (h : dollar? t = some (p, r)) : p.Alike f p := by
  unfold dollar? at h
  dsimp only at h
  split at h
  · cases h
    exact .token nofun
  · split at h
    · cases h
      exact .token nofun
    · obtain ⟨found, -, hp⟩ := Option.map_eq_some_iff.mp h
      cases hp
      exact .token nofun

theorem alike_plain (h : some (front?.plain c t) = some (p, r)) : p.Alike f p := by
  obtain rfl : (front?.plain c t).1 = p := congrArg Prod.fst (Option.some.inj h)
  unfold front?.plain
  dsimp only
  split
  · exact .lineEnd
  split
  · exact .blank
  split
  · exact .token nofun
  split
  · exact .token nofun
  · exact .token fun _ => by simp

theorem alike_front? (h : front? c t = some (p, r)) : p.Alike f p := by
  unfold front? at h
  split at h
  · cases h
    exact .lineEnd
  · cases h
    exact .comment rfl
  · obtain ⟨found, -, hp⟩ := Option.map_eq_some_iff.mp h
    cases hp
    exact .comment rfl
  · exact alike_string? (by decide) h
  · obtain ⟨found, -, hp⟩ := Option.map_eq_some_iff.mp h
    cases hp
    exact .token nofun
  · cases h
    exact .token fun _ => by decide
  · exact alike_dollar? h
  · split at h
    · next kind hkind =>
      refine alike_string? ?_ h
      rintro rfl
      unfold stringMark? at hkind
      split at hkind <;> cases hkind
    · exact alike_plain h
  · exact alike_plain h

theorem alike_pieces? (h : pieces? t = some ps) : List.Forall₂ (Piece.Alike f) ps ps := by
  fun_induction pieces? t generalizing ps with
  | case1 =>
    cases h
    exact .nil
  | case2 => cases h
  | case3 t c piece rest hfront ih =>
    obtain ⟨ps, hps, rfl⟩ := Option.map_eq_some_iff.mp h
    exact .cons (alike_front? hfront) (ih hps)

end Token

/-- The statements of a script are alike to themselves: all types in them have letters. -/
theorem alike_statements? {script : Text} {ss : List Statement}
    (h : statements? script = some ss) : List.Forall₂ (Statement.Alike id) ss ss := by
  obtain ⟨ts, hts, hss⟩ := Option.bind_eq_some_iff.mp h
  obtain ⟨ps, hps, rfl⟩ := Option.map_eq_some_iff.mp hts
  have halike := Token.ofPieces_alike (f := id) (Token.alike_pieces? hps)
  rw [Token.gathered, hss] at halike
  cases halike with
  | some halike => exact halike

end SchemaDiagram.Postgres
