import HtmlReflow.Minify
import HtmlReflow.Proofs.BlockStability
import HtmlReflow.Proofs.Shielding

namespace HtmlReflow

/-- A text with placeholders in which `blocks` stand one after the other, with nothing around them that
    reads as a placeholder. -/
def Intact (blocks : List (Verbatim × Text × Text)) (w : Text) : Prop :=
  ∃ ps, w = shieldedFrom 0 [] ps ∧ Scanned ps ∧ Respelt ps ∧ cores ps = blocks ∧
    ¬ placeholderStart <:+: spellPieces ps

variable {blocks : List (Verbatim × Text × Text)} {o : Options} {s w : Text}

theorem intact_shield (clean : ¬ placeholderStart <:+: s) :
    Intact (cores (preservedPattern.pieces s)) (shield s).text := by
  have scanned := scanned_pieces s
  refine ⟨respell (preservedPattern.pieces s), shieldedFrom_respell.symm, scanned.respell,
    respelt_respell _, cores_respell, fun made => clean ?_⟩
  have there := infix_respell (a := []) solid_placeholderStart (by decide) (by decide)
    scanned.proper made
  rwa [List.nil_append, spellPieces_pieces] at there

theorem Intact.respaced {t : Text} (intact : Intact blocks w) (r : Respaced false w t) :
    Intact blocks t := by
  obtain ⟨ps, rfl, scanned, respelt, same, clean⟩ := intact
  obtain ⟨qs, rfl, scanned', respelt', same', r'⟩ := scanned.exists_respaced respelt r
  refine ⟨qs, rfl, scanned', respelt', same'.trans same, ?_⟩
  rwa [r'.infix_iff solid_placeholderStart]

theorem Intact.tidy (intact : Intact blocks w) (kept : o.removeComments = false) :
    Intact blocks (tidy o w) :=
  tidy_induction_of_kept kept (fun _ _ r intact => intact.respaced r) intact

theorem contents_shield (s : Text) :
    (shield s).contents = (cores (preservedPattern.pieces s)).map (·.2.2) :=
  (contents_cores _).symm

/-- Contents come back where the blocks stand, and a new scan finds these blocks. -/
theorem Intact.restore (intact : Intact blocks w) :
    cores (preservedPattern.pieces (restore (blocks.map (·.2.2)) w)) = blocks ∧
      ¬ placeholderStart <:+: restore (blocks.map (·.2.2)) w := by
  obtain ⟨ps, rfl, scanned, respelt, rfl, clean⟩ := intact
  rw [contents_cores, restore_shieldedFrom respelt (no_placeholder clean)]
  exact ⟨congrArg cores scanned, clean⟩

/-- Shielding the text again takes out what was put back. -/
theorem Intact.shield_restore (intact : Intact blocks w) :
    (shield (HtmlReflow.restore (blocks.map (·.2.2)) w)).text = w ∧
      Respelt (preservedPattern.pieces (HtmlReflow.restore (blocks.map (·.2.2)) w)) := by
  obtain ⟨ps, rfl, scanned, respelt, rfl, clean⟩ := intact
  rw [contents_cores, restore_shieldedFrom respelt (no_placeholder clean), shield, scanned]
  exact ⟨rfl, respelt⟩

/-- Where comments stay, minifying a text and scanning it again finds the blocks of the text, in order,
    each with its element, its name and its content as they were. -/
theorem blocks_minify (kept : o.removeComments = false) (clean : ¬ placeholderStart <:+: s) :
    (blocksOf (preservedPattern.pieces (minify o s))).map (fun b => (b.element, b.name, b.content)) =
      (blocksOf (preservedPattern.pieces s)).map (fun b => (b.element, b.name, b.content)) := by
  have intact : Intact (cores (preservedPattern.pieces s)) (tidy o (shield s).text) :=
    (intact_shield clean).tidy kept
  have same := intact.restore.1
  rw [← contents_shield] at same
  rw [minify, blocksOf_pieces_trim]
  exact same

theorem blocks_minify_pre :
    ¬ placeholderStart <:+: "<p> <PRE  id=a > x\n </pre> </p>".toList ∧
      (blocksOf (preservedPattern.pieces
        (minify ⟨false, true, true, true⟩ "<p> <PRE  id=a > x\n </pre> </p>".toList))).map
          (fun b => (b.element, b.name, b.content)) = [(.pre, "PRE".toList, " x\n ".toList)] :=
  ⟨by decide +kernel, (blocks_minify rfl (by decide +kernel)).trans (by decide +kernel)⟩

end HtmlReflow
