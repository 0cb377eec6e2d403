import HtmlReflow.Proofs.BlockStability
import HtmlReflow.Proofs.Respelling

namespace HtmlReflow

open Marked

/-- A marked text of pieces that a scan finds again once their contents are back, with nothing in them
    that reads as a placeholder. -/
structure Restorable (f : Nat → Text) (m : Marked) (ps : List (Piece Block)) : Prop where
  marking : Marking f m ps
  scanned : Scanned ps
  respelt : Respelt ps
  clean : ∀ i, ¬ placeholder i <:+: spellPieces ps

variable {f : Nat → Text} {m : Marked} {ps : List (Piece Block)} {contents : List Text} {s t : Text}
  {angle : Bool}

/-- A shielded text stands for its pieces, with closing tags spelt as their opening tags. -/
theorem exists_restorable (clean : ∀ i, ¬ placeholder i <:+: s) :
    ∃ m ps, Restorable (contentAt (shield s).contents) m ps ∧ spell placeholder m = (shield s).text ∧
      marks m = List.range' 0 (shield s).contents.length := by
  have scanned := scanned_pieces s
  have same : (blocksOf (respell (preservedPattern.pieces s))).map Block.content = (shield s).contents := by
    rw [← contents_cores, cores_respell, contents_cores]
    rfl
  refine ⟨marksFrom 0 (respell (preservedPattern.pieces s)), respell (preservedPattern.pieces s),
    ⟨marking_marksFrom same.symm, scanned.respell, respelt_respell _, fun i made => clean i ?_⟩, ?_, ?_⟩
  · rw [← respelling_eq] at made
    exact infix_of_infix_respelling made
  · rw [spell_placeholder_marksFrom, shieldedFrom_respell]
    rfl
  · rw [marks_marksFrom, ← same, List.length_map]

namespace Restorable

theorem respaced (restorable : Restorable f m ps) (r : Respaced angle (spell placeholder m) t) :
    ∃ m' qs, t = spell placeholder m' ∧ Restorable f m' qs ∧ marks m' = marks m := by
  obtain ⟨marking, scanned, respelt, clean⟩ := restorable
  obtain ⟨m', qs, rfl, marking', numbers, scanned', respelt', _, r'⟩ :=
    marking.exists_respaced scanned respelt r
  refine ⟨m', qs, rfl, ⟨marking', scanned', respelt', fun i inside => clean i ?_⟩, numbers⟩
  rwa [← r'.infix_iff (solid_placeholder i)]

theorem collapsed (restorable : Restorable f m ps) :
    ∃ m' qs, collapseBlanks (spell placeholder m) = spell placeholder m' ∧ Restorable f m' qs ∧
      marks m' = marks m := by
  refine collapseBlanks_induction (motive := fun t => ∃ m' qs, t = spell placeholder m' ∧
    Restorable f m' qs ∧ marks m' = marks m) ?_ ⟨m, ps, rfl, restorable, rfl⟩
  rintro _ t r ⟨m₁, qs, rfl, restorable₁, same⟩
  obtain ⟨m₂, rs, text, restorable₂, same'⟩ := restorable₁.respaced r
  exact ⟨m₂, rs, text, restorable₂, same'.trans same⟩

/-- The contents come back in their places. -/
theorem restore (restorable : Restorable (contentAt contents) m ps)
    (bounded : ∀ i ∈ marks m, i < contents.length) (nodup : (marks m).Nodup) :
    restore contents (spell placeholder m) = spellPieces ps := by
  have text : spell (contentAt contents) m = spellPieces ps := by
    rw [restorable.marking.spell_eq, respell_of_respelt restorable.respelt]
  have unforged : Unforged contents m := by
    refine ⟨restorable.marking.closed, bounded, nodup, fun j _ => text ▸ restorable.clean j, ?_⟩
    intro u i solid start
    refine restorable.marking.not_front solid fun empty => ?_
    rw [empty] at start
    exact absurd (List.prefix_nil.mp start) (by decide)
  rw [unforged.restore, text]

end Restorable
end HtmlReflow
