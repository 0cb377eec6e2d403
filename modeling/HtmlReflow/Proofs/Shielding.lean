import HtmlReflow.Proofs.Marking

namespace HtmlReflow

open Block (closingTagOf)
open Marked

variable {ps : List (Piece Block)} {next : Nat} {contents : List Text} {c : Char} {s : Text}

/-- The text of pieces with marks for the contents of blocks, numbered from `next` on. -/
def marksFrom (next : Nat) : List (Piece Block) → Marked
  | [] => []
  | .plain c :: ps => .plain c :: marksFrom next ps
  | .found b :: ps =>
    ofText b.openingTag ++ .found next :: (ofText (closingTagOf b.name) ++ marksFrom (next + 1) ps)

theorem spell_placeholder_marksFrom :
    spell placeholder (marksFrom next ps) = shieldedFrom next [] ps := by
  induction ps generalizing next with
  | nil => rfl
  | cons p ps ih =>
    cases p with
    | plain c => rw [marksFrom, spell_plain, ih, shieldedFrom_plain]
    | found b => simp [marksFrom, ih, Block.around]

theorem marks_marksFrom :
    marks (marksFrom next ps) = List.range' next (blocksOf ps).length := by
  induction ps generalizing next with
  | nil => rfl
  | cons p ps ih =>
    cases p with
    | plain c => exact ih
    | found b =>
      rw [marksFrom, marks_append, marks_ofText, marks_found, marks_append, marks_ofText, ih]
      rfl

theorem mem_marksFrom_iff {i : Nat} : i ∈ marks (marksFrom 0 ps) ↔ i < (blocksOf ps).length := by
  rw [marks_marksFrom, List.mem_range'_1]
  simp

theorem nodup_marksFrom : (marks (marksFrom next ps)).Nodup := by
  rw [marks_marksFrom]
  exact List.nodup_range'

theorem marking_marksFrom (there : contents.drop next = (blocksOf ps).map Block.content) :
    Marking (contentAt contents) (marksFrom next ps) ps := by
  induction ps generalizing next with
  | nil => exact .nil
  | cons p ps ih =>
    cases p with
    | plain c => exact .plain c (ih there)
    | found b =>
      obtain ⟨_, here, later⟩ := contentAt_of_drop there
      exact .found here (ih later)

/-- Marks that are numbered one after the other are those that a scan gives. -/
theorem Marking.eq_marksFrom {f : Nat → Text} {m : Marked} (marking : Marking f m ps)
    (numbered : marks m = List.range' next (blocksOf ps).length) : m = marksFrom next ps := by
  induction marking generalizing next with
  | nil => rfl
  | plain c _ ih => rw [marksFrom, ih numbered]
  | @found m ps b i _ _ ih =>
    rw [blocksOf_found, List.length_cons, List.range'_succ, marks_append, marks_ofText, List.nil_append,
      marks_found, marks_append, marks_ofText, List.nil_append, List.cons.injEq] at numbered
    rw [marksFrom, numbered.1, ih numbered.2]

theorem shieldedFrom_respell : shieldedFrom next [] (respell ps) = shieldedFrom next [] ps := by
  induction ps generalizing next with
  | nil => rfl
  | cons p ps ih =>
    cases p with
    | plain c => rw [respell_plain, shieldedFrom_plain, shieldedFrom_plain, ih]
    | found b =>
      rw [respell_found, shieldedFrom_found, shieldedFrom_found, ih]
      rfl

/-- One step puts the content of the first block that has none in its place, if its placeholder is
    not in the text in front. -/
theorem replaceFirst_around {b : Block} {done rest : Text}
    (absent : ¬ placeholder next <:+: done ++ b.respelt.text) :
    replaceFirst (placeholder next) b.content (done ++ (b.around (placeholder next) ++ rest)) =
      done ++ (b.respelt.text ++ rest) := by
  have front : ¬ placeholder next <:+: done ++ '<' :: (b.name ++ b.attributes) := by
    intro inside
    apply absent
    rw [Block.text_respelt, ← List.append_nil (b.around b.content), Block.around_append,
      ← List.append_assoc]
    exact inside.trans (List.prefix_append _ _).isInfix
  rw [Block.text_respelt, Block.around_append, Block.around_append, ← List.append_assoc,
    replaceFirst_append_cons front (foreign_right next), List.append_assoc]

/-- Contents come back in their places where the text does not read as one of their placeholders. -/
theorem restoreFrom_shieldedFrom {done : Text}
    (absent : ∀ k, next ≤ k → k < next + (blocksOf ps).length →
      ¬ placeholder k <:+: done ++ spellPieces (respell ps)) :
    restoreFrom next ((blocksOf ps).map Block.content) (done ++ shieldedFrom next [] ps) =
      done ++ spellPieces (respell ps) := by
  -- What stands in `done` is back already, so the first placeholder is that of the next block.
  induction ps generalizing next done with
  | nil => rfl
  | cons p ps ih =>
    cases p with
    | plain c =>
      rw [blocksOf_plain, shieldedFrom_plain, respell_plain, spellPieces_plain,
        List.append_cons done c (shieldedFrom next [] ps),
        List.append_cons done c (spellPieces (respell ps))]
      apply ih
      intro k low high
      have moved := absent k low high
      rwa [respell_plain, spellPieces_plain, List.append_cons] at moved
    | found b =>
      rw [respell_found, spellPieces_found, blocksOf_found] at absent
      have here : ¬ placeholder next <:+: done ++ b.respelt.text := by
        intro inside
        apply absent next (Nat.le_refl next) (by rw [List.length_cons]; omega)
        rw [← List.append_assoc]
        exact inside.trans (List.prefix_append _ _).isInfix
      rw [blocksOf_found, List.map_cons, shieldedFrom_found, respell_found, spellPieces_found,
        restoreFrom, replaceFirst_around here, ← List.append_assoc, ← List.append_assoc done]
      apply ih
      intro k low high
      rw [List.append_assoc]
      apply absent k (by omega)
      rw [List.length_cons]
      omega

theorem restore_shieldedFrom_respell
    (absent : ∀ k < (blocksOf ps).length, ¬ placeholder k <:+: spellPieces (respell ps)) :
    restore ((blocksOf ps).map Block.content) (shieldedFrom 0 [] ps) = spellPieces (respell ps) := by
  have fromStart : ∀ k, 0 ≤ k → k < 0 + (blocksOf ps).length →
      ¬ placeholder k <:+: [] ++ spellPieces (respell ps) := by
    intro k _ bound
    rw [Nat.zero_add] at bound
    exact absent k bound
  exact restoreFrom_shieldedFrom fromStart

theorem respell_of_respelt (respelt : Respelt ps) : respell ps = ps := by
  induction ps with
  | nil => rfl
  | cons p ps ih =>
    cases p with
    | plain c => rw [respell_plain, ih (respelt_plain.mp respelt)]
    | found b =>
      obtain ⟨closing, respelt⟩ := respelt_found.mp respelt
      have same : b.respelt = b := congrArg (fun name => { b with closingName := name }) closing.symm
      rw [respell_found, ih respelt, same]

theorem restore_shieldedFrom (respelt : Respelt ps) (clean : ∀ i, ¬ placeholder i <:+: spellPieces ps) :
    restore ((blocksOf ps).map Block.content) (shieldedFrom 0 [] ps) = spellPieces ps := by
  have same := respell_of_respelt respelt
  rw [← same] at clean
  have back := restore_shieldedFrom_respell fun k _ => clean k
  rwa [same] at back

/-- Spelling a closing tag anew makes no solid word with an underscore. -/
theorem infix_respell {u a : Text} (solid : Solid u) (slash : '/' ∉ u) (mark : '_' ∈ u)
    (proper : ∀ b, .found b ∈ ps → b.Proper) (inside : u <:+: a ++ spellPieces (respell ps)) :
    u <:+: a ++ spellPieces ps := by
  induction ps generalizing a with
  | nil => exact inside
  | cons p ps ih =>
    have proper' : ∀ b, .found b ∈ ps → b.Proper := fun b member => proper b (List.mem_cons_of_mem p member)
    cases p with
    | plain c =>
      have moved := ih (a := a ++ [c]) proper' (by simpa using inside)
      simpa using moved
    | found b =>
      have named := (proper b List.mem_cons_self).named
      have shape : ∀ (b : Block) (rest : Text), a ++ (b.text ++ rest) =
          (a ++ (b.openingTag ++ b.content)) ++ '<' :: ([] ++ '/' :: (b.closingName ++ '>' :: rest)) := by
        intro b rest
        simp [Block.text, Block.closingTag, closingTagOf]
      rw [respell_found, spellPieces_found, shape, infix_append_cons_iff solid.left_free,
        infix_append_cons_iff slash, infix_append_cons_iff solid.right_free] at inside
      rw [spellPieces_found, shape, infix_append_cons_iff solid.left_free,
        infix_append_cons_iff slash, infix_append_cons_iff solid.right_free]
      -- The name is the only part that is spelt anew, and it has no underscore.
      rcases inside with before | empty | name | after
      · exact .inl before
      · exact .inr (.inl empty)
      · exact absurd (name.subset mark) (underscore_notMem_of_folded named)
      · exact .inr (.inr (.inr (ih (a := []) proper' after)))

theorem contents_length (s : Text) :
    (shield s).contents.length = (blocksOf (preservedPattern.pieces s)).length :=
  List.length_map _

theorem shield_cons_blank (blank : isBlank c = true) (s : Text) :
    (shield (c :: s)).text = c :: (shield s).text := by
  simp only [shield]
  rw [pieces_cons_of_blank blank, shieldedFrom_plain]

theorem shieldedFrom_append_plain :
    shieldedFrom next [] (ps ++ [.plain c]) = shieldedFrom next [] ps ++ [c] := by
  induction ps generalizing next with
  | nil => rfl
  | cons p ps ih =>
    cases p with
    | plain d => rw [List.cons_append, shieldedFrom_plain, shieldedFrom_plain, ih]; rfl
    | found b => rw [List.cons_append, shieldedFrom_found, shieldedFrom_found, ih, List.append_assoc]

theorem shield_append_blank (blank : isBlank c = true) (s : Text) :
    (shield (s ++ [c])).text = (shield s).text ++ [c] := by
  simp only [shield]
  rw [pieces_append_blank blank, shieldedFrom_append_plain]

end HtmlReflow
