import HtmlReflow.Proofs.BlockScan
import HtmlReflow.Proofs.Restore
import Mathlib.Data.List.Chain

namespace HtmlReflow

open Block (closingTagOf)
open Marked

/-- The marked text of pieces: each block has a mark for its content, in any numbering for which `f`
    knows the contents, and its closing tag is spelt as its opening tag. -/
inductive Marking (f : Nat → Text) : Marked → List (Piece Block) → Prop where
  | nil : Marking f [] []
  | plain {m ps} (c : Char) : Marking f m ps → Marking f (.plain c :: m) (.plain c :: ps)
  | found {m ps b i} : f i = b.content → Marking f m ps →
      Marking f (ofText b.openingTag ++ .found i :: (ofText (closingTagOf b.name) ++ m)) (.found b :: ps)

namespace Marking

variable {f : Nat → Text} {m m' : Marked} {ps qs : List (Piece Block)} {s u : Text} {c : Char} {i : Nat}

theorem append (first : Marking f m ps) (second : Marking f m' qs) : Marking f (m ++ m') (ps ++ qs) := by
  induction first with
  | nil => exact second
  | plain c _ ih => exact .plain c ih
  | found content _ ih =>
    rw [List.append_assoc, List.cons_append, List.append_assoc]
    exact .found content ih

theorem closed (marking : Marking f m ps) : Closed m := by
  induction marking with
  | nil => trivial
  | plain c _ ih => exact ih
  | @found m ps b i _ _ ih =>
    refine closed_ofText.append ⟨⟨ofText (b.name ++ ['>']) ++ m, ?_⟩, closed_ofText.append ih⟩
    simp [closingTagOf]

theorem spell_eq (marking : Marking f m ps) : spell f m = spellPieces (respell ps) := by
  induction marking with
  | nil => rfl
  | plain c _ ih => rw [spell_plain, ih, respell_plain, spellPieces_plain]
  | found content _ ih =>
    rw [spell_append, spell_ofText, spell_found, spell_append, spell_ofText, ih, content, respell_found,
      spellPieces_found, Block.text_respelt, Block.around, List.append_assoc, List.append_assoc]

theorem not_found_cons (marking : Marking f m ps) : m ≠ .found i :: m' := by
  cases marking with
  | nil => simp
  | plain c _ => simp
  | found _ _ => simp [Block.openingTag]

/-- Every mark stands right behind an opening tag. -/
theorem isChain (marking : Marking f m ps) : m.IsChain fun p q => ∀ i, q = .found i → p = .plain '>' := by
  have word : ∀ s : Text, (ofText s).IsChain fun p q => ∀ i, q = .found i → p = .plain '>' := fun s =>
    (List.isChain_map _).mpr (List.pairwise_of_forall fun c d i same => by cases same).isChain
  induction marking with
  | nil => exact .nil
  | plain c marking ih =>
    refine List.isChain_append.mpr ⟨word [c], ih, fun p _ q first i same => ?_⟩
    obtain ⟨rest, rfl⟩ := List.head?_eq_some_iff.mp first
    exact absurd (by rw [same]) marking.not_found_cons
  | @found m ps b i _ marking ih =>
    have behind : (ofText (closingTagOf b.name) ++ m).IsChain fun p q =>
        ∀ i, q = .found i → p = .plain '>' := by
      refine List.isChain_append.mpr ⟨word _, ih, fun p _ q first i same => ?_⟩
      obtain ⟨rest, rfl⟩ := List.head?_eq_some_iff.mp first
      exact absurd (by rw [same]) marking.not_found_cons
    have mark : (.found i :: (ofText (closingTagOf b.name) ++ m) : Marked).IsChain fun p q =>
        ∀ i, q = .found i → p = .plain '>' :=
      List.isChain_cons.mpr ⟨by simp [closingTagOf], behind⟩
    refine List.isChain_append.mpr ⟨word _, mark, fun p last _ _ _ _ => ?_⟩
    have tag : ofText b.openingTag = ofText ('<' :: (b.name ++ b.attributes)) ++ [.plain '>'] := by
      simp [Block.openingTag]
    rw [tag, List.getLast?_concat] at last
    exact (Option.some.inj last).symm

/-- A mark stands right behind an opening tag. -/
theorem not_front (marking : Marking f m ps) (solid : Solid u) (nonempty : u ≠ []) :
    ¬ ofText u ++ [.found i] <:+: m := by
  intro inside
  obtain ⟨u, c, rfl⟩ := List.eq_nil_or_concat u |>.resolve_left nonempty
  rw [List.concat_eq_append] at solid inside
  have chain := marking.isChain.infix inside
  rw [ofText_append, List.append_assoc] at chain
  have last := (List.isChain_cons.mp (List.isChain_append.mp chain).2.1).1 (.found i) (by simp) i rfl
  cases last
  exact (solid '>' (by simp)).2.2 rfl

end Marking
end HtmlReflow
