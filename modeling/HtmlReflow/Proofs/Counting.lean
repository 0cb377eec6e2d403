import HtmlReflow.Minify
import HtmlReflow.Proofs.BlockScan
import HtmlReflow.Proofs.Replacement

namespace HtmlReflow

variable {α : Type} {q : Char → Bool} {s : Text}

namespace Pattern

variable (p : Pattern α) {f : α → Text} {a : α}

theorem exists_front?_of_mem (member : .found a ∈ p.pieces s) : ∃ t rest, p.front? t = some (a, rest) := by
  induction s using p.scan_induction with
  | done => rw [pieces_nil] at member; cases member
  | found s b rest h ih =>
    rw [p.pieces_of_some h] at member
    rcases List.mem_cons.mp member with same | member
    · cases same; exact ⟨s, rest, h⟩
    · exact ih member
  | plain c s h ih =>
    rw [p.pieces_cons_of_none h] at member
    exact ih (by simpa using member)

theorem text_infix_of_mem (member : .found a ∈ p.pieces s) : p.text a <:+: s := by
  obtain ⟨before, after, cut⟩ := List.append_of_mem member
  have whole : (p.pieces s).flatMap (Piece.render p.text) = s := p.replace_text s
  rw [← whole, cut, List.flatMap_append, List.flatMap_cons]
  exact List.infix_append' _ _ _

theorem replace_eq_self (same : ∀ a, .found a ∈ p.pieces s → f a = p.text a) : p.replace f s = s := by
  conv => rhs; rw [← p.replace_text s]
  apply List.flatMap_congr
  intro piece member
  cases piece with
  | plain c => rfl
  | found a => exact same a member

theorem countP_render_le {ps : List (Piece α)}
    (le : ∀ a, .found a ∈ ps → (f a).countP q ≤ (p.text a).countP q) :
    (ps.flatMap (Piece.render f)).countP q ≤ (ps.flatMap (Piece.render p.text)).countP q := by
  induction ps with
  | nil => exact Nat.le_refl _
  | cons piece ps ih =>
    have later := ih fun a member => le a (List.mem_cons_of_mem piece member)
    simp only [List.flatMap_cons, List.countP_append]
    cases piece with
    | plain c => exact Nat.add_le_add_left later _
    | found a => exact Nat.add_le_add (le a List.mem_cons_self) later

theorem countP_replace_le (le : ∀ a, .found a ∈ p.pieces s → (f a).countP q ≤ (p.text a).countP q) :
    (p.replace f s).countP q ≤ s.countP q := by
  conv => rhs; rw [← p.replace_text s]
  exact p.countP_render_le le

/-- And if the text does not get shorter, no occurrence does. -/
theorem le_of_countP_replace (le : ∀ a, .found a ∈ p.pieces s → (f a).countP q ≤ (p.text a).countP q)
    (kept : s.countP q ≤ (p.replace f s).countP q) (member : .found a ∈ p.pieces s) :
    (p.text a).countP q ≤ (f a).countP q := by
  have whole : s.countP q = ((p.pieces s).flatMap (Piece.render p.text)).countP q := by
    conv => lhs; rw [← p.replace_text s]
    rfl
  rw [whole, replace] at kept
  obtain ⟨before, after, cut⟩ := List.append_of_mem member
  rw [cut] at le kept
  have left : (before.flatMap (Piece.render f)).countP q ≤
      (before.flatMap (Piece.render p.text)).countP q :=
    p.countP_render_le fun a there => le a (List.mem_append_left _ there)
  have right : (after.flatMap (Piece.render f)).countP q ≤
      (after.flatMap (Piece.render p.text)).countP q :=
    p.countP_render_le fun a there => le a (List.mem_append_right _ (List.mem_cons_of_mem _ there))
  simp only [List.flatMap_append, List.flatMap_cons, List.countP_append, Piece.render] at kept
  omega

end Pattern

theorem countP_gaps_le : (Gap.pattern.replace (fun _ => ['>', '<']) s).countP q ≤ s.countP q := by
  apply Gap.pattern.countP_replace_le
  intro g _
  simp only [Gap.pattern, Gap.text, List.countP_cons, List.countP_append]
  omega

theorem countP_tags_le : (SpacedTag.pattern.replace (fun t => t.tag.text) s).countP q ≤ s.countP q := by
  apply SpacedTag.pattern.countP_replace_le
  intro t _
  simp only [SpacedTag.pattern, SpacedTag.text, List.countP_append]
  omega

theorem countP_replaceFirst_le (u content s : Text) :
    (replaceFirst u content s).countP q ≤ s.countP q + content.countP q := by
  by_cases inside : u <:+: s
  · have counted := (perm_replaceFirst inside content).countP_eq q
    rw [List.countP_append, List.countP_append] at counted
    omega
  · rw [replaceFirst_eq_self inside]
    omega

theorem countP_restoreFrom_le (contents : List Text) (next : Nat) :
    (restoreFrom next contents s).countP q ≤ s.countP q + contents.flatten.countP q := by
  induction contents generalizing next s with
  | nil => exact Nat.le_refl _
  | cons content contents ih =>
    have first := countP_replaceFirst_le (q := q) (placeholder next) content s
    have others := ih (s := replaceFirst (placeholder next) content s) (next + 1)
    rw [restoreFrom, List.flatten_cons, List.countP_append]
    omega

theorem Solid.countP_eq_zero {u : Text} (solid : Solid u)
    (loose : ∀ c, q c = true → isBlank c = true ∨ c = '<') : u.countP q = 0 := by
  apply List.countP_eq_zero.mpr
  intro c member counted
  obtain ⟨blank, other, _⟩ := solid c member
  rcases loose c counted with h | h
  · rw [blank] at h; cases h
  · exact other h

theorem countP_spellPieces {ps : List (Piece Block)}
    (loose : ∀ c, q c = true → isBlank c = true ∨ c = '<') (next : Nat)
    (proper : ∀ b, .found b ∈ ps → b.Proper) :
    (spellPieces ps).countP q =
      (shieldedFrom next [] ps).countP q + ((blocksOf ps).map Block.content).flatten.countP q := by
  induction ps generalizing next with
  | nil => rfl
  | cons p ps ih =>
    have proper' : ∀ b, .found b ∈ ps → b.Proper :=
      fun b member => proper b (List.mem_cons_of_mem p member)
    cases p with
    | plain c =>
      have later := ih next proper'
      rw [spellPieces_plain, shieldedFrom_plain, blocksOf_plain, List.countP_cons, List.countP_cons,
        later]
      omega
    | found b =>
      have later := ih (next + 1) proper'
      have here := proper b List.mem_cons_self
      -- The placeholder and the two spellings of the name count nothing.
      have name := (solid_of_folded here.named).countP_eq_zero loose
      have closing := (solid_of_folded here.closed).countP_eq_zero loose
      have token := (solid_placeholder next).countP_eq_zero loose
      rw [spellPieces_found, shieldedFrom_found, blocksOf_found, List.map_cons, List.flatten_cons]
      simp only [Block.text, Block.around, Block.closingTag, Block.closingTagOf, List.countP_append,
        List.countP_cons, name, closing, token, later]
      omega

/-- Shielding moves blanks and `<` from the text into the contents, and loses none. -/
theorem countP_shield (loose : ∀ c, q c = true → isBlank c = true ∨ c = '<') (s : Text) :
    s.countP q = (shield s).text.countP q + (shield s).contents.flatten.countP q := by
  have whole := countP_spellPieces loose 0 (scanned_pieces s).proper
  rwa [spellPieces_pieces] at whole

end HtmlReflow
