import HtmlReflow.Proofs.Shielding

namespace HtmlReflow

open Block (Opens closingTagOf)
open Marked

variable {ps : List (Piece Block)} {f : Nat → Text} {m : Marked} {s t : Text} {angle : Bool}

theorem Marking.yields (marking : Marking f m ps) (yields : Yields (spell placeholder m)) :
    Yields (spellPieces ps) := by
  cases marking with
  | nil => exact yields
  | plain c _ => exact yields_cons_iff.mpr (yields_cons_iff.mp yields)
  | found _ _ => exact yields_cons_iff.mpr (.inr rfl)

theorem Scanned.plain_of_respaced {qs : List (Piece Block)} {c : Char}
    (scanned : Scanned (.plain c :: ps)) (scanned' : Scanned qs)
    (r : Respaced (c == '>') (spellPieces ps) (spellPieces qs)) : Scanned (.plain c :: qs) := by
  obtain ⟨front, _⟩ := scanned_plain_iff.mp scanned
  refine scanned_plain_iff.mpr ⟨?_, scanned'⟩
  rw [preserved_front?_eq_none_iff] at front ⊢
  rintro rfl e opens
  exact front rfl e (opens.of_respaced r)

/-- Respacing a block around a placeholder touches the attributes only, and the same can be done to the
    block around its content. -/
theorem exists_respaced_block {b : Block} {next : Nat} (proper : b.Proper)
    (r : Respaced angle (b.around (placeholder next) ++ s) t) :
    ∃ (b' : Block) (t' : Text), t = b'.around (placeholder next) ++ t' ∧ b'.Proper ∧ b'.core = b.core ∧
      b'.closingName = b.closingName ∧ Respaced true s t' ∧
      ∀ s₀ t₀, Respaced true s₀ t₀ →
        Respaced angle (b.around b.content ++ s₀) (b'.around b'.content ++ t₀) := by
  have shape : ∀ (b : Block) (inside s : Text), b.around inside ++ s =
      '<' :: (b.name ++ (b.attributes ++ '>' :: (inside ++ (closingTagOf b.name ++ s)))) := by
    intro b inside s
    simp [Block.around, Block.openingTag]
  rw [shape] at r
  obtain ⟨t₁, rfl, r₁⟩ := r.cons_left (by decide)
  obtain ⟨t₂, rfl, r₂⟩ := r₁.append_left_solid (solid_of_folded proper.named)
  obtain ⟨attributes, t₃, rfl, free, r₃, replay⟩ := r₂.angle_left proper.angle
  obtain ⟨t₄, rfl, r₄⟩ := r₃.append_left_word (solid_placeholder next) (placeholder_ne_nil next)
  obtain ⟨t₅, rfl, r₅⟩ := Block.respaced_closingTag proper.named r₄
  refine ⟨{ b with attributes := attributes }, t₅, by rw [shape],
    ⟨proper.named, proper.closed, free, proper.first⟩, rfl, rfl, r₅, fun s₀ t₀ r₀ => ?_⟩
  have inner : Respaced true (b.content ++ (closingTagOf b.name ++ s₀))
      (b.content ++ (closingTagOf b.name ++ t₀)) := by
    have moved : Respaced true ((b.content ++ '<' :: '/' :: b.name) ++ '>' :: s₀)
        ((b.content ++ '<' :: '/' :: b.name) ++ '>' :: t₀) := r₀.append_angle _
    simpa [closingTagOf] using moved
  rw [shape, shape]
  exact .keep '<' (.append_left b.name (replay _ _ inner))

/-- A respacing of a text with placeholders is a respacing of the text itself that leaves the contents
    of its blocks alone; a scan of the result finds the same blocks. -/
theorem Marking.exists_respaced (marking : Marking f m ps) (scanned : Scanned ps) (respelt : Respelt ps)
    (r : Respaced angle (spell placeholder m) t) :
    ∃ m' qs, t = spell placeholder m' ∧ Marking f m' qs ∧ marks m' = marks m ∧ Scanned qs ∧ Respelt qs ∧
      cores qs = cores ps ∧ Respaced angle (spellPieces ps) (spellPieces qs) := by
  induction marking generalizing angle t with
  | nil =>
    cases r
    exact ⟨[], [], rfl, .nil, rfl, scanned_nil, respelt, rfl, .done⟩
  | plain c marking ih =>
    have scanned' := (scanned_plain_iff.mp scanned).2
    rw [spell_plain] at r
    cases r with
    | keep _ r =>
      obtain ⟨m', qs, rfl, marking', numbers, found, spelt, same, r'⟩ :=
        ih scanned' (respelt_plain.mp respelt) r
      exact ⟨.plain c :: m', .plain c :: qs, rfl, .plain c marking', numbers,
        scanned.plain_of_respaced found r', respelt_plain.mpr spelt, same, .keep c r'⟩
    | space blank r =>
      obtain ⟨m', qs, rfl, marking', numbers, found, spelt, same, r'⟩ :=
        ih scanned' (respelt_plain.mp respelt) r
      refine ⟨.plain ' ' :: m', .plain ' ' :: qs, rfl, .plain ' ' marking', numbers,
        scanned_plain_iff.mpr ⟨?_, found⟩, respelt_plain.mpr spelt, same, .space blank r'⟩
      exact preserved_front?_eq_none_iff.mpr fun impossible => by cases impossible
    | drop blank yields r =>
      obtain ⟨m', qs, rfl, marking', numbers, found, spelt, same, r'⟩ :=
        ih scanned' (respelt_plain.mp respelt) r
      exact ⟨m', qs, rfl, marking', numbers, found, spelt, same,
        .drop blank (yields.imp id marking.yields) r'⟩
  | @found m ps b i content marking ih =>
    obtain ⟨proper, scanned'⟩ := scanned_found_iff.mp scanned
    obtain ⟨closing, respelt'⟩ := respelt_found.mp respelt
    have written : ∀ (b : Block) (m : Marked),
        spell placeholder (ofText b.openingTag ++ .found i :: (ofText (closingTagOf b.name) ++ m)) =
          b.around (placeholder i) ++ spell placeholder m := by
      intro b m
      simp [Block.around]
    rw [written] at r
    -- The block is found again with other attributes, and what stands behind it follows a `>`.
    obtain ⟨b', t', rfl, proper', core, closing', r', replay⟩ := exists_respaced_block proper r
    obtain ⟨m', qs, rfl, marking', numbers, found, spelt, same, rest⟩ := ih scanned' respelt' r'
    have name : b'.name = b.name := congrArg (·.2.1) core
    have content' : f i = b'.content := content.trans (congrArg (·.2.2) core).symm
    have text : ∀ b : Block, b.closingName = b.name → b.text = b.around b.content := by
      intro b same
      rw [Block.text, Block.around, Block.closingTag, same]
    refine ⟨_, .found b' :: qs, (written b' m').symm, .found content' marking', by simp [numbers],
      scanned_found_iff.mpr ⟨proper', found⟩,
      respelt_found.mpr ⟨by rw [closing', closing, name], spelt⟩, ?_, ?_⟩
    · rw [cores_found, cores_found, core, same]
    · rw [spellPieces_found, spellPieces_found, text b closing,
        text b' (by rw [closing', closing, name])]
      exact replay _ _ rest

theorem Scanned.exists_respaced (scanned : Scanned ps) (respelt : Respelt ps)
    (r : Respaced angle (shieldedFrom 0 [] ps) t) :
    ∃ qs, t = shieldedFrom 0 [] qs ∧ Scanned qs ∧ Respelt qs ∧ cores qs = cores ps ∧
      Respaced angle (spellPieces ps) (spellPieces qs) := by
  rw [← spell_placeholder_marksFrom] at r
  obtain ⟨m, qs, rfl, marking, numbers, found, spelt, same, r'⟩ :=
    (marking_marksFrom rfl).exists_respaced scanned respelt r
  have numbered : marks m = List.range' 0 (blocksOf qs).length := by
    rw [numbers, marks_marksFrom, ← List.length_map Block.core, ← cores, ← same, cores, List.length_map]
  rw [marking.eq_marksFrom numbered]
  exact ⟨qs, spell_placeholder_marksFrom, found, spelt, same, r'⟩

end HtmlReflow
