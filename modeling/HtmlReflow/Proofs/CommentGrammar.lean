import HtmlReflow.Markup.Comment
import HtmlReflow.Proofs.LocalScan
import HtmlReflow.Proofs.Occurrences
import HtmlReflow.Proofs.Search

namespace HtmlReflow.Comment

variable {s u v w rest : Text} {c : Comment} {ps qs : List (Piece Comment)}

/-- A comment as a scan finds it: its closing mark is the first behind its opening mark. -/
def Proper (c : Comment) : Prop := ¬ closing <:+: c.body ++ ['-', '-']

theorem front?_eq_some : pattern.front? s = some (c, rest) ↔ s = c.text ++ rest ∧ c.Proper := by
  show front? s = some (c, rest) ↔ _
  have written : c.text ++ rest = opening ++ (c.body ++ (closing ++ rest)) := by simp [text]
  rw [written]
  constructor
  · intro read
    unfold front? at read
    split at read
    · cases read
    · rename_i inside opened
      split at read
      · cases read
      · rename_i body rest' closed
        cases read
        obtain ⟨tail, rfl, ended⟩ := exists_rest_of_first? closed
        obtain rfl := afterToken?_eq_some.mp ended
        refine ⟨afterToken?_eq_some.mp opened, ?_⟩
        rintro ⟨x, y, early⟩
        -- An earlier closing mark starts inside of the body.
        have shorter : x.length < body.length := by
          have sizes := congrArg List.length early
          simp [closing] at sizes
          omega
        rw [List.append_assoc] at early
        obtain ⟨z, rfl⟩ := List.prefix_of_prefix_length_le (List.prefix_append x (closing ++ y))
          (early ▸ List.prefix_append body _) (Nat.le_of_lt shorter)
        rw [List.append_assoc] at early
        have fails := fails_of_first? closed x z rfl (by rintro rfl; simp at shorter)
        have marked : z ++ (closing ++ rest) = closing ++ (y ++ '>' :: rest) := by
          rw [← List.append_assoc closing, List.append_cancel_left early]
          simp [closing]
        rw [marked, afterToken?_eq_some.mpr rfl] at fails
        cases fails
  · rintro ⟨rfl, proper⟩
    have closed : first? (afterToken? closing) (c.body ++ (closing ++ rest)) = some (c.body, rest) := by
      apply first?_append _ (afterToken?_eq_some.mpr rfl)
      intro x z cut nonempty
      cases ended : afterToken? closing (z ++ (closing ++ rest)) with
      | none => rfl
      | some tail =>
        refine absurd ?_ proper
        have same : closing ++ tail = (z ++ ['-', '-']) ++ '>' :: rest := by
          rw [← afterToken?_eq_some.mp ended]
          simp [closing]
        have long := List.length_pos_iff.mpr nonempty
        have within : closing <+: z ++ ['-', '-'] :=
          List.prefix_of_prefix_length_le (same ▸ List.prefix_append _ _) (List.prefix_append _ _)
            (by simp [closing]; omega)
        rw [cut, List.append_assoc]
        exact within.isInfix.trans (List.suffix_append x _).isInfix
    unfold front?
    rw [afterToken?_eq_some.mpr rfl]
    simp only [closed]

theorem proper_of_mem (member : .found c ∈ pattern.pieces s) : c.Proper := by
  obtain ⟨ps, qs, cut⟩ := List.append_of_mem member
  obtain ⟨w, v, _, front⟩ := Pattern.exists_front?_of_pieces cut
  exact (front?_eq_some.mp front).2

theorem front?_opening_eq_none : pattern.front? (opening ++ s) = none ↔ ¬ closing <:+: s := by
  have closed : first? (afterToken? closing) s = none ↔ ¬ closing <:+: s := by
    rw [first?_eq_none_iff]
    constructor
    · rintro fails ⟨x, y, rfl⟩
      have here := fails x (closing ++ y) (List.append_assoc ..)
      rw [afterToken?_eq_some.mpr rfl] at here
      cases here
    · intro unclosed x r cut
      cases ended : afterToken? closing r with
      | none => rfl
      | some tail => exact absurd ⟨x, tail, by rw [cut, afterToken?_eq_some.mp ended]; simp⟩ unclosed
  have read : pattern.front? (opening ++ s) =
      (first? (afterToken? closing) s).map fun x => (⟨x.1⟩, x.2) := by
    show front? (opening ++ s) = _
    unfold front?
    rw [afterToken?_eq_some.mpr rfl]
    cases found : first? (afterToken? closing) s <;> simp only [found, Option.map]
  rw [read, Option.map_eq_none_iff, closed]

theorem startsWith : pattern.StartsWith '<' := by
  intro d s other
  cases front : pattern.front? (d :: s) with
  | none => rfl
  | some x =>
    obtain ⟨same, _⟩ := front?_eq_some.mp front
    exact absurd (List.cons.inj same).1 other

/-- A conditional comment has no closing mark across its opening mark, and so none but its last. -/
theorem Proper.unclosed (proper : c.Proper) (conditional : c.isConditional = true)
    (cut : c.text = u ++ v) (nonempty : v ≠ []) : ¬ closing <:+: u := by
  intro early
  obtain ⟨v, d, rfl⟩ := List.eq_nil_or_concat v |>.resolve_left nonempty
  obtain ⟨body, written⟩ := List.isPrefixOf_iff_prefix.mp conditional
  have parts : (opening ++ '[' :: (['i', 'f'] ++ (body ++ ['-', '-']))) ++ ['>'] = (u ++ v) ++ [d] := by
    have whole : c.text = u ++ (v ++ [d]) := by rw [cut, List.concat_eq_append]
    rw [List.append_assoc u, ← whole, text, ← written]
    simp [closing]
  have inside : closing <:+: opening ++ '[' :: (['i', 'f'] ++ (body ++ ['-', '-'])) := by
    rw [(List.append_inj' parts rfl).1]
    exact early.trans (List.prefix_append u v).isInfix
  rcases (infix_append_cons_iff (by decide)).mp inside with mark | later
  · revert mark
    decide
  · apply proper
    rw [← written]
    exact List.infix_cons later

theorem isConditional_iff (c : Comment) (s : Text) :
    c.isConditional = true ↔ ['[', 'i', 'f'] <+: c.body ++ (closing ++ s) := by
  rw [isConditional, List.isPrefixOf_iff_prefix]
  constructor
  · exact fun front => front.trans (List.prefix_append _ _)
  · rintro ⟨rest, same⟩
    exact prefix_of_append_eq_append_cons (c := '-') (by decide) same

/-- A scan of the text ends behind an opening mark that nothing closes. -/
def LeftOpen (s : Text) : Prop := opening.map .plain <:+: pattern.pieces s

theorem pieces_opening (unclosed : ¬ closing <:+: s) :
    pattern.pieces (opening ++ s) = opening.map .plain ++ pattern.pieces s := by
  have none : pattern.front? ('<' :: (['!', '-', '-'] ++ s)) = none := front?_opening_eq_none.mpr unclosed
  rw [show opening ++ s = '<' :: (['!', '-', '-'] ++ s) from rfl, pattern.pieces_cons_of_none none,
    startsWith.pieces_append (by decide)]
  rfl

/-- A text is scanned apart from what stands before it, if no comment starts there and closes here. -/
theorem pieces_append (apart : ¬ LeftOpen u ∨ ¬ closing <:+: w) :
    pattern.pieces (u ++ '<' :: w) = pattern.pieces u ++ pattern.pieces ('<' :: w) := by
  induction u using pattern.scan_induction with
  | done => rw [pattern.pieces_nil, List.nil_append, List.nil_append]
  | found u c rest h ih =>
    obtain ⟨rfl, proper⟩ := front?_eq_some.mp h
    have longer : pattern.front? (c.text ++ (rest ++ '<' :: w)) = some (c, rest ++ '<' :: w) :=
      front?_eq_some.mpr ⟨rfl, proper⟩
    have apart' : ¬ LeftOpen rest ∨ ¬ closing <:+: w := by
      refine apart.imp_left fun closed inside => closed ?_
      rw [LeftOpen, pattern.pieces_of_some h]
      exact List.infix_cons inside
    rw [List.append_assoc, pattern.pieces_of_some longer, pattern.pieces_of_some h, ih apart',
      List.cons_append]
  | plain d u h ih =>
    have none : pattern.front? (d :: (u ++ '<' :: w)) = none := by
      cases front : pattern.front? (d :: (u ++ '<' :: w)) with
      | none => rfl
      | some x =>
        exfalso
        obtain ⟨same, _⟩ := front?_eq_some.mp front
        obtain ⟨rfl, inner⟩ := List.cons.inj same
        obtain ⟨u, rfl⟩ := prefix_of_append_eq_append_cons (u := ['!', '-', '-']) (by decide) inner.symm
        have still : ¬ closing <:+: u := front?_opening_eq_none.mp h
        have closed : closing <:+: u ++ '<' :: w := by
          by_contra unclosed
          have none : pattern.front? ('<' :: ((['!', '-', '-'] ++ u) ++ '<' :: w)) = none := by
            rw [List.append_assoc]
            exact front?_opening_eq_none.mpr unclosed
          rw [none] at front
          cases front
        rcases (infix_append_cons_iff (by decide)).mp closed with early | late
        · exact still early
        · refine apart.elim (fun notOpen => notOpen ?_) fun unclosed => unclosed late
          exact ⟨[], pattern.pieces u, (pieces_opening still).symm⟩
    have apart' : ¬ LeftOpen u ∨ ¬ closing <:+: w := by
      refine apart.imp_left fun closed inside => closed ?_
      rw [LeftOpen, pattern.pieces_cons_of_none h]
      exact List.infix_cons inside
    rw [List.cons_append, pattern.pieces_cons_of_none none, pattern.pieces_cons_of_none h, ih apart',
      List.cons_append]

theorem leftOpen_append (u : Text) (unclosed : ¬ closing <:+: opening ++ v) :
    LeftOpen (u ++ (opening ++ v)) := by
  have later : ¬ closing <:+: v := fun inside => unclosed (inside.trans (List.suffix_append _ v).isInfix)
  have inner : ¬ closing <:+: ['!', '-', '-'] ++ v := fun inside => unclosed (List.infix_cons inside)
  have scanned : pattern.pieces (u ++ (opening ++ v)) = _ := pieces_append (.inr inner)
  rw [LeftOpen, scanned]
  exact ⟨pattern.pieces u, pattern.pieces v, by
    rw [List.append_assoc, ← pieces_opening later]
    rfl⟩

theorem opening_prefix (c : Comment) (cut : c.text = u ++ '<' :: v) (nonempty : u ≠ []) :
    opening <+: u := by
  obtain ⟨d, u, rfl⟩ := List.exists_cons_of_ne_nil nonempty
  obtain ⟨rfl, inner⟩ := List.cons.inj cut
  exact List.cons_prefix_cons.mpr ⟨rfl,
    prefix_of_append_eq_append_cons (u := ['!', '-', '-']) (by decide) inner⟩

/-- Cut behind a piece, a text keeps its pieces. -/
theorem pieces_spell_left (cut : pattern.pieces s = ps ++ qs) : pattern.pieces (pattern.spell ps) = ps := by
  induction s using pattern.scan_induction generalizing ps with
  | done =>
    rw [pattern.pieces_nil] at cut
    rw [(List.append_eq_nil_iff.mp cut.symm).1]
    exact pattern.pieces_nil
  | found s c rest h ih =>
    rcases List.append_eq_cons_iff.mp (cut.symm.trans (pattern.pieces_of_some h)) with
      ⟨rfl, _⟩ | ⟨ps, rfl, later⟩
    · exact pattern.pieces_nil
    · obtain ⟨_, proper⟩ := front?_eq_some.mp h
      have front : pattern.front? (c.text ++ pattern.spell ps) = some (c, pattern.spell ps) :=
        front?_eq_some.mpr ⟨rfl, proper⟩
      rw [Pattern.spell_found, show pattern.text c = c.text from rfl, pattern.pieces_of_some front,
        ih later]
  | plain d s h ih =>
    rcases List.append_eq_cons_iff.mp (cut.symm.trans (pattern.pieces_cons_of_none h)) with
      ⟨rfl, _⟩ | ⟨ps, rfl, later⟩
    · exact pattern.pieces_nil
    · have whole : s = pattern.spell ps ++ pattern.spell qs := by
        rw [← Pattern.spell_append, ← later, Pattern.spell_pieces]
      have none : pattern.front? (d :: pattern.spell ps) = none := by
        cases front : pattern.front? (d :: pattern.spell ps) with
        | none => rfl
        | some x =>
          obtain ⟨same, proper⟩ := front?_eq_some.mp front
          have longer : pattern.front? (d :: s) = some (x.1, x.2 ++ pattern.spell qs) := by
            apply front?_eq_some.mpr
            rw [whole, ← List.cons_append, same, List.append_assoc]
            exact ⟨rfl, proper⟩
          rw [h] at longer
          cases longer
      rw [Pattern.spell_plain, List.singleton_append, pattern.pieces_cons_of_none none, ih later]

/-- What a scan finds does not stand behind an opening mark that is still open. -/
theorem not_leftOpen (cut : pattern.pieces s = ps ++ .found c :: qs) : ¬ LeftOpen (pattern.spell ps) := by
  rw [LeftOpen, pieces_spell_left cut]
  rintro ⟨xs, ys, rfl⟩
  have later : pattern.pieces s =
      xs ++ .plain '<' :: (List.map .plain ['!', '-', '-'] ++ (ys ++ .found c :: qs)) := by
    rw [cut]
    simp [opening]
  have none := pattern.front?_plain '<' later
  rw [Pattern.spell_append, Pattern.spell_map_plain, Pattern.spell_append, Pattern.spell_found] at none
  refine front?_opening_eq_none.mp none ?_
  exact ⟨pattern.spell ys ++ (opening ++ c.body), pattern.spell qs, by
    simp [show pattern.text c = c.text from rfl, text]⟩

end HtmlReflow.Comment
