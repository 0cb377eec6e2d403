import HtmlReflow.Proofs.Marking
import HtmlReflow.Proofs.Occurrences

namespace HtmlReflow

open Block (Opens closingTagOf)
open Marked

/-- No tag is open at the end of the text: behind every `<` stands a `>`. -/
def OutsideTags (u : Text) : Prop := ∀ a b, u = a ++ '<' :: b → '>' ∈ b

variable {a b d u w : Text} {c : Char} {e : Verbatim} {f : Nat → Text} {m x y : Marked} {i : Nat}
  {ps qs rs : List (Piece Block)}

theorem outsideTags_nil : OutsideTags [] := by
  intro x y cut
  exact absurd cut (by simp)

theorem outsideTags_cons : OutsideTags (c :: u) ↔ (c = '<' → '>' ∈ u) ∧ OutsideTags u := by
  constructor
  · exact fun outside => ⟨fun same => outside [] u (by rw [same]; rfl),
      fun x y cut => outside (c :: x) y (by rw [cut]; rfl)⟩
  · rintro ⟨here, later⟩ x y cut
    rcases List.cons_eq_append_iff.mp cut with ⟨_, same⟩ | ⟨x, _, cut⟩
    · obtain ⟨rfl, rfl⟩ := List.cons.inj same
      exact here rfl
    · exact later x y cut

instance decidableOutsideTags : (u : Text) → Decidable (OutsideTags u)
  | [] => .isTrue outsideTags_nil
  | _ :: u =>
    have := decidableOutsideTags u
    decidable_of_iff' _ outsideTags_cons

theorem outsideTags_append_angle : OutsideTags (a ++ '>' :: b) ↔ OutsideTags b := by
  induction a with
  | nil => simp [outsideTags_cons]
  | cons c a ih => simp [outsideTags_cons, ih]

theorem OutsideTags.right (outside : OutsideTags (a ++ b)) : OutsideTags b :=
  fun x y cut => outside (a ++ x) y (by rw [cut, List.append_assoc])

/-- Cut where no tag is open, a text has the tag at its front on one side. -/
theorem eq_nil_or_of_tag_append {α : Type} {l r : α} {u w k v : List α} (free : r ∉ u)
    (outside : ∀ a b, k = a ++ l :: b → r ∈ b) (same : l :: (u ++ r :: w) = k ++ v) :
    k = [] ∨ ∃ k', k = l :: (u ++ r :: k') ∧ w = k' ++ v := by
  cases k with
  | nil => exact .inl rfl
  | cons d k =>
    obtain ⟨rfl, rest⟩ := List.cons.inj same
    obtain ⟨u', k', rfl, free'⟩ := List.eq_append_cons_of_mem (outside [] k rfl)
    have rest : u ++ r :: w = u' ++ r :: (k' ++ v) := by
      rw [rest]
      exact List.append_assoc u' (r :: k') v
    obtain ⟨rfl, rfl⟩ := append_cons_inj_of_notMem_left free free' rest
    exact .inr ⟨k', rfl, rfl⟩

/-- What opens a block still opens one when a text is put in where no tag is open. -/
theorem Block.Opens.insert (d : Text) (outside : OutsideTags ('<' :: u)) (opens : Opens e (u ++ w)) :
    Opens e (u ++ (d ++ w)) := by
  obtain ⟨name, attributes, content, closing, rest, same, named, closed, free⟩ := opens
  have start : '<' :: ((name ++ attributes) ++ '>' :: (content ++ (closingTagOf closing ++ rest))) =
      ('<' :: u) ++ w := by
    rw [List.cons_append, same, List.append_assoc]
  have free' : '>' ∉ name ++ attributes := by
    rw [List.mem_append, not_or]
    exact ⟨(solid_of_folded named).right_free, free⟩
  obtain ⟨k, cut, behind⟩ := (eq_nil_or_of_tag_append free' outside start).resolve_left (by simp)
  obtain ⟨_, rfl⟩ := List.cons.inj cut
  rw [← List.cons_append, outsideTags_append_angle] at outside
  -- The closing tag stands in front of the cut or behind it.
  rcases List.append_eq_append_iff.mp behind with ⟨c, rfl, tag⟩ | ⟨c, rfl, rfl⟩
  · rw [show closingTagOf closing ++ rest = '<' :: (('/' :: closing) ++ '>' :: rest) by
      simp [closingTagOf]] at tag
    rcases eq_nil_or_of_tag_append (solid_slash_of_folded closed).right_free outside.right tag with
      rfl | ⟨c, rfl, rfl⟩
    · obtain rfl : _ = w := tag
      exact ⟨name, attributes, content ++ d, closing, rest, by simp [closingTagOf], named, closed, free⟩
    · exact ⟨name, attributes, content, closing, c ++ (d ++ w), by simp [closingTagOf], named, closed, free⟩
  · exact ⟨name, attributes, k ++ (d ++ c), closing, rest, by simp, named, closed, free⟩

theorem Block.exists_text_append (b : Block) (s : Text) : ∃ k, b.text ++ s = k ++ '>' :: s :=
  ⟨b.openingTag ++ (b.content ++ '<' :: '/' :: b.closingName), by simp [text, closingTag, closingTagOf]⟩

theorem Scanned.right (scanned : Scanned (ps ++ qs)) : Scanned qs := Pattern.pieces_spell scanned

/-- Pieces that are taken out where no tag is open leave the others as a scan finds them. -/
theorem Scanned.cut (scanned : Scanned (ps ++ (qs ++ rs))) (outside : OutsideTags (spellPieces ps)) :
    Scanned (ps ++ rs) := by
  induction ps with
  | nil => exact Scanned.right scanned
  | cons p ps ih =>
    cases p with
    | plain c =>
      obtain ⟨front, scanned⟩ := scanned_plain_iff.mp scanned
      refine scanned_plain_iff.mpr ⟨?_, ih scanned (outsideTags_cons.mp outside).2⟩
      have whole : spellPieces (ps ++ (qs ++ rs)) = spellPieces ps ++ (spellPieces qs ++ spellPieces rs) := by
        rw [spellPieces_append, spellPieces_append]
      have parts : spellPieces (ps ++ rs) = spellPieces ps ++ spellPieces rs := spellPieces_append
      rw [preserved_front?_eq_none_iff] at front ⊢
      rintro rfl e opens
      exact front rfl e (whole ▸ Opens.insert _ outside (parts ▸ opens))
    | found b =>
      obtain ⟨proper, scanned⟩ := scanned_found_iff.mp scanned
      exact scanned_found_iff.mpr ⟨proper, ih scanned outside.right⟩

theorem suffix_of_notMem {α : Type} {u a b : List α} {c : α} (free : c ∉ u) (last : u <:+ a ++ c :: b) :
    u <:+ b := by
  induction a with
  | nil => exact (List.suffix_cons_iff.mp last).resolve_left fun same => free (same ▸ List.mem_cons_self)
  | cons d a ih =>
    exact ih ((List.suffix_cons_iff.mp last).resolve_left fun same => free (by rw [same]; simp))

theorem plain_mem_ofText : .plain c ∈ ofText u ↔ c ∈ u := by
  simp [ofText]

namespace Marking

theorem angle_mem (marking : Marking f m ps) (member : '>' ∈ spell placeholder m) : '>' ∈ spellPieces ps := by
  induction marking with
  | nil => exact member
  | plain c _ ih =>
    rw [spell_plain, List.mem_cons] at member
    exact List.mem_cons.mpr (member.imp_right ih)
  | found _ _ _ => simp [Block.text, Block.openingTag]

theorem outsideTags (marking : Marking f m ps) (outside : OutsideTags (spell placeholder m)) :
    OutsideTags (spellPieces ps) := by
  induction marking with
  | nil => exact outsideTags_nil
  | plain c marking ih =>
    obtain ⟨here, later⟩ := outsideTags_cons.mp outside
    exact outsideTags_cons.mpr ⟨fun same => marking.angle_mem (here same), ih later⟩
  | @found m ps b i _ _ ih =>
    have written : spell placeholder
        (ofText b.openingTag ++ .found i :: (ofText (closingTagOf b.name) ++ m)) =
        (b.openingTag ++ (placeholder i ++ '<' :: '/' :: b.name)) ++ '>' :: spell placeholder m := by
      simp [closingTagOf]
    rw [written, outsideTags_append_angle] at outside
    obtain ⟨k, text⟩ := b.exists_text_append (spellPieces ps)
    rw [spellPieces_found, text, outsideTags_append_angle]
    exact ih outside

/-- Cut where no tag is open and not next to a mark, a text has the block at its front on one side. -/
theorem eq_nil_or_of_block {b : Block} (proper : b.Proper)
    (outside : ∀ a b, x = a ++ .plain '<' :: b → .plain '>' ∈ b) (left : ∀ i, ¬ [.found i] <:+ x)
    (right : ∀ i, ¬ [.found i] <+: y)
    (same : ofText b.openingTag ++ .found i :: (ofText (closingTagOf b.name) ++ m) = x ++ y) :
    x = [] ∨ ∃ x', x = ofText b.openingTag ++ .found i :: (ofText (closingTagOf b.name) ++ x') ∧
      m = x' ++ y := by
  have opening : ∀ m, ofText b.openingTag ++ m =
      .plain '<' :: (ofText (b.name ++ b.attributes) ++ .plain '>' :: m) := by
    simp [Block.openingTag]
  have closing : ∀ m, ofText (closingTagOf b.name) ++ m =
      .plain '<' :: (ofText ('/' :: b.name) ++ .plain '>' :: m) := by
    simp [closingTagOf]
  have free : '>' ∉ b.name ++ b.attributes := by
    rw [List.mem_append, not_or]
    exact ⟨(solid_of_folded proper.named).right_free, proper.angle⟩
  have free' : '>' ∉ '/' :: b.name := (Block.solid_slash_of_folded proper.named).right_free
  rw [opening] at same
  rcases eq_nil_or_of_tag_append (mt plain_mem_ofText.mp free) outside same with rfl | ⟨x, rfl, behind⟩
  · exact .inl rfl
  cases x with
  | nil => exact absurd ⟨_, behind⟩ (right i)
  | cons p x =>
    obtain ⟨rfl, tag⟩ := List.cons.inj behind
    rw [closing] at tag
    have outside' : ∀ u v, x = u ++ .plain '<' :: v → .plain '>' ∈ v := by
      rintro u v rfl
      refine outside (ofText b.openingTag ++ .found i :: u) v ?_
      rw [List.append_assoc, opening]
      rfl
    rcases eq_nil_or_of_tag_append (mt plain_mem_ofText.mp free') outside' tag with rfl | ⟨x, rfl, rfl⟩
    · exact absurd ⟨ofText b.openingTag, opening _⟩ (left i)
    · exact .inr ⟨x, by rw [opening, closing], rfl⟩

/-- A marking cut where no tag is open and not next to a mark is a marking of the pieces on both sides. -/
theorem split (marking : Marking f (x ++ y) ps) (proper : ∀ b, .found b ∈ ps → b.Proper)
    (outside : OutsideTags (spell placeholder x)) (left : ∀ i, ¬ [.found i] <:+ x)
    (right : ∀ i, ¬ [.found i] <+: y) : ∃ qs rs, ps = qs ++ rs ∧ Marking f x qs ∧ Marking f y rs := by
  replace outside : ∀ a b, x = a ++ .plain '<' :: b → .plain '>' ∈ b := by
    rintro a b rfl
    rw [spell_append, spell_plain] at outside
    obtain ⟨p, member, angle⟩ := List.mem_flatMap.mp (outside _ _ rfl)
    cases p with
    | plain c => exact List.mem_singleton.mp angle ▸ member
    | found i => exact absurd angle (foreign_right i)
  generalize cut : x ++ y = m at marking
  induction marking generalizing x with
  | nil =>
    obtain ⟨rfl, rfl⟩ := List.append_eq_nil_iff.mp cut
    exact ⟨[], [], rfl, .nil, .nil⟩
  | @plain m ps c marking ih =>
    cases x with
    | nil =>
      obtain rfl : y = _ := cut
      exact ⟨[], _, rfl, .nil, .plain c marking⟩
    | cons p x =>
      obtain ⟨rfl, later⟩ := List.cons.inj cut
      obtain ⟨qs, rs, rfl, first, second⟩ := ih (fun b member => proper b (List.mem_cons_of_mem _ member))
        (fun i last => left i (last.trans (List.suffix_cons _ _)))
        (fun a b same => outside (.plain c :: a) b (by rw [same]; rfl)) later
      exact ⟨.plain c :: qs, rs, rfl, .plain c first, second⟩
  | @found m ps b i content marking ih =>
    rcases eq_nil_or_of_block (proper b List.mem_cons_self) outside left right cut.symm with
      rfl | ⟨x, rfl, rfl⟩
    · obtain rfl : y = _ := cut
      exact ⟨[], _, rfl, .nil, .found content marking⟩
    · obtain ⟨qs, rs, rfl, first, second⟩ := ih (fun b member => proper b (List.mem_cons_of_mem _ member))
        (fun j last => left j (last.trans ⟨ofText b.openingTag ++ .found i :: ofText (closingTagOf b.name),
          by simp⟩))
        (fun u v same => outside (ofText b.openingTag ++ .found i :: (ofText (closingTagOf b.name) ++ u)) v
          (by simp [same])) rfl
      exact ⟨.found b :: qs, rs, rfl, .found content first, second⟩

/-- A word without `<` at the front of the text is there in front of any mark. -/
theorem prefix_iff (marking : Marking f m ps) (free : '<' ∉ u) :
    u <+: spellPieces ps ↔ u <+: spell placeholder m := by
  induction marking generalizing u with
  | nil => rfl
  | plain c _ ih =>
    cases u with
    | nil => simp
    | cons d u =>
      have free' : '<' ∉ u := fun member => free (List.mem_cons_of_mem d member)
      rw [spellPieces_plain, spell_plain, List.cons_prefix_cons, List.cons_prefix_cons, ih free']
  | found _ _ _ =>
    cases u with
    | nil => simp
    | cons d u =>
      have other : d ≠ '<' := fun same => free (same ▸ List.mem_cons_self)
      simp [Block.text, Block.openingTag, other]

theorem spell_of_angle_free (marking : Marking f m ps) (free : '>' ∉ spellPieces ps) :
    spell placeholder m = spellPieces ps := by
  induction marking with
  | nil => rfl
  | plain c _ ih => rw [spell_plain, spellPieces_plain, ih fun member => free (List.mem_cons_of_mem c member)]
  | found _ _ _ => exact absurd (by simp [Block.text, Block.openingTag]) free

/-- A word without `>` at the end of the text is there behind any mark. -/
theorem back (marking : Marking f m ps) (free : '>' ∉ u) (last : u <:+ spellPieces ps) :
    u <:+ spell placeholder m := by
  induction marking with
  | nil => exact last
  | plain c marking ih =>
    rw [spell_plain]
    rcases List.suffix_cons_iff.mp last with rfl | later
    · rw [marking.spell_of_angle_free fun member => free (List.mem_cons_of_mem c member)]
      exact List.suffix_rfl
    · exact (ih later).trans (List.suffix_cons c _)
  | @found m ps b i _ _ ih =>
    obtain ⟨k, text⟩ := b.exists_text_append (spellPieces ps)
    rw [spellPieces_found, text] at last
    simp only [spell_append, spell_found, spell_ofText, ← List.append_assoc]
    exact (ih (suffix_of_notMem free last)).trans (List.suffix_append _ _)

end Marking
end HtmlReflow
