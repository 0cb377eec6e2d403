import HtmlReflow.Proofs.BreakPlaces

namespace HtmlReflow.Pattern

variable {α : Type} {p : Pattern α} {borders : α → List Text} {s u v w border : Text} {a : α}
  {ps qs : List (Piece α)} {gap : Nat}

/-- How pieces are written. -/
def spell (p : Pattern α) (ps : List (Piece α)) : Text := ps.flatMap (Piece.render p.text)

theorem spell_pieces (p : Pattern α) (s : Text) : p.spell (p.pieces s) = s := p.replace_text s

theorem spell_append (p : Pattern α) (ps qs : List (Piece α)) :
    p.spell (ps ++ qs) = p.spell ps ++ p.spell qs := List.flatMap_append

theorem spell_plain (p : Pattern α) (c : Char) (ps : List (Piece α)) :
    p.spell (.plain c :: ps) = [c] ++ p.spell ps := rfl

theorem spell_found (p : Pattern α) (a : α) (ps : List (Piece α)) :
    p.spell (.found a :: ps) = p.text a ++ p.spell ps := rfl

theorem spell_map_plain (p : Pattern α) (s : Text) : p.spell (s.map .plain) = s := by
  induction s with
  | nil => rfl
  | cons c s ih => rw [List.map_cons, spell_plain, ih, List.singleton_append]

theorem mem_placesOf_append (member : border ∈ borders a) (ps qs : List (Piece α)) :
    breadth (p.spell ps ++ border) ∈ p.placesOf borders (ps ++ .found a :: qs) := by
  induction ps with
  | nil => exact List.mem_append_left _ (List.mem_map_of_mem member)
  | cons piece ps ih =>
    cases piece with
    | plain c =>
      rw [List.cons_append, placesOf, spell_plain, List.append_assoc, breadth_append]
      exact List.mem_map_of_mem ih
    | found b =>
      rw [List.cons_append, placesOf, spell_found, List.append_assoc, breadth_append]
      exact List.mem_append_right _ (List.mem_map_of_mem ih)

theorem exists_of_mem_placesOf (member : gap ∈ p.placesOf borders ps) :
    ∃ before a behind border, ps = before ++ .found a :: behind ∧ border ∈ borders a ∧
      gap = breadth (p.spell before ++ border) := by
  induction ps generalizing gap with
  | nil => cases member
  | cons piece ps ih =>
    cases piece with
    | plain c =>
      obtain ⟨later, inside, rfl⟩ := List.mem_map.mp member
      obtain ⟨before, a, behind, border, rfl, here, rfl⟩ := ih inside
      refine ⟨.plain c :: before, a, behind, border, rfl, here, ?_⟩
      rw [spell_plain, List.append_assoc, breadth_append [c]]
    | found b =>
      rcases List.mem_append.mp member with front | later
      · obtain ⟨border, here, rfl⟩ := List.mem_map.mp front
        exact ⟨[], b, ps, border, rfl, here, rfl⟩
      · obtain ⟨later, inside, rfl⟩ := List.mem_map.mp later
        obtain ⟨before, a, behind, border, rfl, here, rfl⟩ := ih inside
        refine ⟨.found b :: before, a, behind, border, rfl, here, ?_⟩
        rw [spell_found, List.append_assoc, breadth_append (p.text b)]

/-- A scan that starts between two pieces goes on as the scan of the whole does. -/
theorem pieces_spell (cut : p.pieces s = ps ++ qs) : p.pieces (p.spell qs) = qs := by
  induction s using p.scan_induction generalizing ps with
  | done =>
    rw [pieces_nil] at cut
    rw [(List.append_eq_nil_iff.mp cut.symm).2]
    exact p.pieces_nil
  | plain c s h ih =>
    rcases List.append_eq_cons_iff.mp (cut.symm.trans (p.pieces_cons_of_none h)) with
      ⟨rfl, rfl⟩ | ⟨ps, rfl, later⟩
    · rw [← p.pieces_cons_of_none h, spell_pieces]
    · exact ih later
  | found s b rest h ih =>
    rcases List.append_eq_cons_iff.mp (cut.symm.trans (p.pieces_of_some h)) with
      ⟨rfl, rfl⟩ | ⟨ps, rfl, later⟩
    · rw [← p.pieces_of_some h, spell_pieces]
    · exact ih later

theorem front?_plain (c : Char) (cut : p.pieces s = ps ++ .plain c :: qs) :
    p.front? (c :: p.spell qs) = none := by
  have scanned : p.pieces (c :: p.spell qs) = .plain c :: qs := pieces_spell cut
  cases front : p.front? (c :: p.spell qs) with
  | none => rfl
  | some x =>
    rw [p.pieces_of_some front] at scanned
    cases scanned

/-- What a scan finds is read where it stands. -/
theorem exists_front?_of_pieces (cut : p.pieces s = ps ++ .found a :: qs) :
    ∃ w v, s = p.spell ps ++ w ∧ p.front? w = some (a, v) := by
  induction s using p.scan_induction generalizing ps with
  | done =>
    rw [pieces_nil] at cut
    exact absurd cut (by simp)
  | plain c s h ih =>
    rw [p.pieces_cons_of_none h] at cut
    rcases List.cons_eq_append_iff.mp cut with ⟨_, impossible⟩ | ⟨ps, rfl, later⟩
    · cases impossible
    · obtain ⟨w, v, rfl, front⟩ := ih later
      exact ⟨w, v, rfl, front⟩
  | found s b rest h ih =>
    rw [p.pieces_of_some h] at cut
    rcases List.cons_eq_append_iff.mp cut with ⟨rfl, same⟩ | ⟨ps, rfl, later⟩
    · cases same
      exact ⟨s, rest, rfl, h⟩
    · obtain ⟨w, v, same, front⟩ := ih later
      refine ⟨w, v, ?_, front⟩
      rw [← p.text_append h, same, spell_found, List.append_assoc]

theorem exists_occurrence (member : gap ∈ p.places borders s) :
    ∃ u w a v border, s = u ++ w ∧ p.front? w = some (a, v) ∧ border ∈ borders a ∧
      gap = breadth (u ++ border) := by
  obtain ⟨before, a, behind, border, cut, here, same⟩ := exists_of_mem_placesOf member
  obtain ⟨w, v, whole, front⟩ := exists_front?_of_pieces cut
  exact ⟨p.spell before, w, a, v, border, whole, front, here, same⟩

/-- Every occurrence has one `<`, in front. So no two of them overlap. -/
structure Sparse (p : Pattern α) : Prop where
  starts : p.StartsWith '<'
  single : ∀ s a rest, p.front? s = some (a, rest) → ∃ tail, p.text a = '<' :: tail ∧ '<' ∉ tail

/-- Where an occurrence can be read, a scan finds it. -/
theorem Sparse.exists_pieces (sparse : p.Sparse) (front : p.front? w = some (a, v)) (u : Text) :
    ∃ ps qs, p.pieces (u ++ w) = ps ++ .found a :: qs ∧ p.spell ps = u := by
  generalize whole : u ++ w = s
  induction s using p.scan_induction generalizing u with
  | done =>
    rw [(List.append_eq_nil_iff.mp whole).2, p.front?_nil] at front
    cases front
  | plain c s h ih =>
    rcases List.append_eq_cons_iff.mp whole with ⟨rfl, rfl⟩ | ⟨u, rfl, rfl⟩
    · rw [h] at front
      cases front
    · obtain ⟨ps, qs, cut, spelt⟩ := ih u rfl
      refine ⟨.plain c :: ps, qs, ?_, ?_⟩
      · rw [p.pieces_cons_of_none h, cut, List.cons_append]
      · rw [spell_plain, spelt]
        rfl
  | found s b rest h ih =>
    obtain ⟨tail, written, free⟩ := sparse.single s b rest h
    obtain ⟨tail', written', _⟩ := sparse.single w a v front
    have same : p.text b ++ rest = u ++ (p.text a ++ v) := by rw [p.text_append h, p.text_append front, whole]
    rw [written, written', List.cons_append, List.cons_append] at same
    rcases List.cons_eq_append_iff.mp same with ⟨rfl, _⟩ | ⟨u, rfl, inner⟩
    · rw [List.nil_append] at whole
      subst whole
      rw [h] at front
      cases front
      exact ⟨[], _, p.pieces_of_some h, rfl⟩
    · obtain ⟨u, rfl⟩ := prefix_of_append_eq_append_cons free inner
      rw [List.append_assoc] at inner
      have behind := List.append_cancel_left inner
      rw [← List.cons_append, ← written', p.text_append front] at behind
      obtain ⟨ps, qs, cut, spelt⟩ := ih u behind.symm
      refine ⟨.found b :: ps, qs, ?_, ?_⟩
      · rw [p.pieces_of_some h, cut, List.cons_append]
      · rw [spell_found, spelt, written, List.cons_append]

theorem Sparse.mem_places (sparse : p.Sparse) (front : p.front? w = some (a, v))
    (member : border ∈ borders a) (u : Text) : breadth (u ++ border) ∈ p.places borders (u ++ w) := by
  obtain ⟨ps, qs, cut, rfl⟩ := sparse.exists_pieces front u
  rw [places, cut]
  exact mem_placesOf_append member ps qs

end HtmlReflow.Pattern
