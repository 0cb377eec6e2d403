import HtmlReflow.Proofs.Collapsed

namespace HtmlReflow

variable {c d : Char} {s t rest : Text} {tag : Tag}

theorem Tag.front?_eq_some :
    Tag.front? s = some (tag, rest) ↔
      s = '<' :: (tag.body ++ '>' :: rest) ∧ tag.body ≠ [] ∧ '>' ∉ tag.body := by
  constructor
  · intro found
    unfold Tag.front? at found
    split at found
    · split at found
      · rename_i read
        cases found
        obtain ⟨written, free⟩ := upToAngle?_eq_some.mp read
        exact ⟨by rw [written], List.cons_ne_nil _ _, free⟩
      · cases found
    · cases found
  · intro h
    obtain ⟨written, nonempty, free⟩ := h
    obtain ⟨body⟩ := tag
    obtain ⟨c, body, rfl⟩ := List.exists_cons_of_ne_nil nonempty
    rw [written]
    simp only [Tag.front?, upToAngle?_append free]

theorem Tag.front?_append (found : Tag.front? s = some (tag, rest)) (t : Text) :
    Tag.front? (s ++ t) = some (tag, rest ++ t) := by
  obtain ⟨written, nonempty, free⟩ := Tag.front?_eq_some.mp found
  exact Tag.front?_eq_some.mpr ⟨by rw [written]; simp, nonempty, free⟩

/-- A tag ends with a `>`, so a blank at the end of a text makes none. -/
theorem Tag.front?_append_blank (blank : isBlank d = true) (absent : Tag.front? s = none) :
    Tag.front? (s ++ [d]) = none := by
  cases found : Tag.front? (s ++ [d]) with
  | none => rfl
  | some x =>
    obtain ⟨tag, rest⟩ := x
    obtain ⟨written, nonempty, free⟩ := Tag.front?_eq_some.mp found
    rcases List.eq_nil_or_concat rest with empty | ⟨rest, e, last⟩
    · rw [empty, show '<' :: (tag.body ++ ['>']) = ('<' :: tag.body) ++ ['>'] from rfl] at written
      have same := (List.append_inj' written rfl).2
      rw [(List.cons.inj same).1] at blank
      cases blank
    · rw [last, List.concat_eq_append, show '<' :: (tag.body ++ '>' :: (rest ++ [e])) =
        ('<' :: (tag.body ++ '>' :: rest)) ++ [e] by simp] at written
      have front : Tag.front? s = some (tag, rest) :=
        Tag.front?_eq_some.mpr ⟨(List.append_inj' written rfl).1, nonempty, free⟩
      rw [absent] at front
      cases front

theorem SpacedTag.front?_eq_none : SpacedTag.front? s = none ↔ Tag.front? (trimStart s) = none := by
  have start : (spanBlanks s).2 = trimStart s := rfl
  unfold SpacedTag.front?
  rw [start]
  cases Tag.front? (trimStart s) with
  | none => simp
  | some x => simp

theorem SpacedTag.front?_of_tag (found : Tag.front? (trimStart s) = some (tag, rest)) :
    SpacedTag.front? s = some (⟨s.takeWhile isBlank, tag, rest.takeWhile isBlank⟩, trimStart rest) := by
  have start : (spanBlanks s).2 = trimStart s := rfl
  unfold SpacedTag.front?
  rw [start, found]
  rfl

theorem SpacedTag.exists_tag {t : SpacedTag} (read : SpacedTag.front? s = some (t, rest)) :
    ∃ tag behind, Tag.front? (trimStart s) = some (tag, behind) ∧ trimStart behind = rest := by
  cases found : Tag.front? (trimStart s) with
  | none =>
    rw [SpacedTag.front?_eq_none.mpr found] at read
    cases read
  | some x =>
    obtain ⟨tag, behind⟩ := x
    rw [SpacedTag.front?_of_tag found] at read
    cases read
    exact ⟨tag, behind, rfl, rfl⟩

/-- A text without the blanks on both sides of its tags. -/
def bareTags (s : Text) : Text := SpacedTag.pattern.replace (fun t => t.tag.text) s

/-- No tag has a blank on either side. -/
def Bare (s : Text) : Prop :=
  ∀ t, .found t ∈ SpacedTag.pattern.pieces s → t.before = [] ∧ t.after = []

theorem bareTags_nil : bareTags [] = [] := Pattern.replace_nil _ _

theorem bareTags_cons_of_none (absent : Tag.front? (trimStart (c :: s)) = none) :
    bareTags (c :: s) = c :: bareTags s :=
  SpacedTag.pattern.replace_cons_of_none _ (SpacedTag.front?_eq_none.mpr absent)

theorem bareTags_of_tag (found : Tag.front? (trimStart s) = some (tag, rest)) :
    bareTags s = tag.text ++ bareTags (trimStart rest) :=
  SpacedTag.pattern.replace_of_some _ (SpacedTag.front?_of_tag found)

theorem exists_bareTags_cons (solid : isBlank c = false) (s : Text) :
    ∃ t, bareTags (c :: s) = c :: t := by
  have start : trimStart (c :: s) = c :: s := trimStart_cons_of_not_blank solid s
  cases found : Tag.front? (c :: s) with
  | none => exact ⟨_, bareTags_cons_of_none (by rw [start, found])⟩
  | some x =>
    obtain ⟨tag, rest⟩ := x
    obtain ⟨written, _⟩ := Tag.front?_eq_some.mp found
    refine ⟨tag.body ++ ['>'] ++ bareTags (trimStart rest), ?_⟩
    rw [bareTags_of_tag (by rw [start, found]), (List.cons.inj written).1]
    simp [Tag.text]

theorem trimStart_bareTags_trimStart (s : Text) :
    trimStart (bareTags (trimStart s)) = bareTags (trimStart s) := by
  rcases trimStart_eq_nil_or s with empty | ⟨c, t, same, solid⟩
  · rw [empty, bareTags_nil]
    rfl
  · rw [same]
    obtain ⟨u, written⟩ := exists_bareTags_cons solid t
    rw [written, trimStart_cons_of_not_blank solid]

/-- Where no tag starts, dropping blanks around the tags behind makes none start. -/
theorem Tag.front?_bareTags (absent : Tag.front? (trimStart s) = none) :
    Tag.front? (bareTags (trimStart s)) = none := by
  rcases trimStart_eq_nil_or s with empty | ⟨c, t, same, solid⟩
  · rw [empty, bareTags_nil]
    rfl
  · rw [same] at absent ⊢
    have start : trimStart (c :: t) = c :: t := trimStart_cons_of_not_blank solid t
    rw [bareTags_cons_of_none (by rw [start, absent])]
    cases found : Tag.front? (c :: bareTags t) with
    | none => rfl
    | some x =>
      obtain ⟨tag, rest⟩ := x
      obtain ⟨written, nonempty, free⟩ := Tag.front?_eq_some.mp found
      obtain ⟨rfl, behind⟩ := List.cons.inj written
      have angle : '>' ∈ t := by
        have counted : 0 < (bareTags t).countP (· == '>') :=
          List.countP_pos_iff.mpr ⟨'>', by rw [behind]; simp, rfl⟩
        have bound : (bareTags t).countP (· == '>') ≤ t.countP (· == '>') := countP_tags_le
        obtain ⟨d, member, same⟩ := List.countP_pos_iff.mp (Nat.lt_of_lt_of_le counted bound)
        rwa [beq_iff_eq.mp same] at member
      obtain ⟨body, rest', rfl, free'⟩ := List.eq_append_cons_of_mem angle
      -- Only an empty body keeps the `<` from being a tag, and an empty body stays empty.
      by_cases empty : body = []
      · rw [empty, List.nil_append] at behind
        obtain ⟨u, start⟩ := exists_bareTags_cons (by decide : isBlank '>' = false) rest'
        rw [start] at behind
        obtain ⟨e, body', same⟩ := List.exists_cons_of_ne_nil nonempty
        rw [same] at behind free
        exact absurd (List.cons.inj behind).1 fun first => free (first ▸ List.mem_cons_self)
      · have front : Tag.front? ('<' :: (body ++ '>' :: rest')) = some (⟨body⟩, rest') :=
          Tag.front?_eq_some.mpr ⟨rfl, empty, free'⟩
        rw [absent] at front
        cases front

theorem trimStart_bareTags (absent : Tag.front? (trimStart s) = none) :
    trimStart (bareTags s) = bareTags (trimStart s) := by
  induction s with
  | nil => rw [bareTags_nil]; exact (bareTags_nil).symm
  | cons c s ih =>
    rw [bareTags_cons_of_none absent]
    cases blank : isBlank c with
    | true =>
      rw [trimStart_cons_of_blank blank] at absent ⊢
      rw [trimStart_cons_of_blank blank, ih absent]
    | false =>
      rw [trimStart_cons_of_not_blank blank] at absent ⊢
      rw [trimStart_cons_of_not_blank blank, bareTags_cons_of_none]
      rwa [trimStart_cons_of_not_blank blank]

theorem bare_cons (absent : Tag.front? (trimStart (c :: s)) = none) : Bare (c :: s) ↔ Bare s := by
  unfold Bare
  rw [SpacedTag.pattern.pieces_cons_of_none (SpacedTag.front?_eq_none.mpr absent)]
  simp

theorem bare_tag (found : Tag.front? (trimStart s) = some (tag, rest)) :
    Bare s ↔ (s.takeWhile isBlank = [] ∧ rest.takeWhile isBlank = []) ∧ Bare (trimStart rest) := by
  unfold Bare
  rw [SpacedTag.pattern.pieces_of_some (SpacedTag.front?_of_tag found)]
  constructor
  · intro bare
    exact ⟨bare _ List.mem_cons_self, fun t member => bare t (List.mem_cons_of_mem _ member)⟩
  · intro h t member
    rcases List.mem_cons.mp member with same | member
    · cases same
      exact h.1
    · exact h.2 t member

/-- Once is enough: no tag gets a blank back, and none arises. -/
theorem bare_bareTags (s : Text) : Bare (bareTags s) := by
  induction s using SpacedTag.pattern.scan_induction with
  | done =>
    intro t member
    rw [bareTags_nil, Pattern.pieces_nil] at member
    cases member
  | plain c s h ih =>
    have absent := SpacedTag.front?_eq_none.mp h
    have still : Tag.front? (trimStart (bareTags (c :: s))) = none := by
      rw [trimStart_bareTags absent]
      exact Tag.front?_bareTags absent
    rw [bareTags_cons_of_none absent] at still ⊢
    exact (bare_cons still).mpr ih
  | found s t rest h ih =>
    obtain ⟨tag, behind, found, rfl⟩ := SpacedTag.exists_tag h
    obtain ⟨_, nonempty, free⟩ := Tag.front?_eq_some.mp found
    have start : trimStart (tag.text ++ bareTags (trimStart behind)) =
        tag.text ++ bareTags (trimStart behind) := trimStart_cons_of_not_blank (by decide) _
    have front : Tag.front? (trimStart (tag.text ++ bareTags (trimStart behind))) =
        some (tag, bareTags (trimStart behind)) := by
      rw [start]
      exact Tag.front?_eq_some.mpr ⟨by simp [Tag.text], nonempty, free⟩
    rw [bareTags_of_tag found]
    refine (bare_tag front).mpr ⟨⟨rfl, ?_⟩, ?_⟩
    · exact takeWhile_eq_nil (trimStart_bareTags_trimStart behind)
    · rwa [trimStart_bareTags_trimStart]

theorem Bare.of_cons (blank : isBlank c = true) (bare : Bare (c :: s)) : Bare s := by
  cases found : Tag.front? (trimStart (c :: s)) with
  | none => exact (bare_cons found).mp bare
  | some x =>
    obtain ⟨tag, rest⟩ := x
    have before := ((bare_tag found).mp bare).1.1
    rw [List.takeWhile_cons, blank] at before
    cases before

theorem Bare.of_append (blank : isBlank d = true) (bare : Bare (s ++ [d])) : Bare s := by
  induction s using SpacedTag.pattern.scan_induction with
  | done =>
    intro t member
    rw [Pattern.pieces_nil] at member
    cases member
  | plain c s h ih =>
    have absent := SpacedTag.front?_eq_none.mp h
    have still : Tag.front? (trimStart (c :: (s ++ [d]))) = none := by
      rw [← List.cons_append, trimStart_append_singleton blank]
      split
      · rfl
      · exact Tag.front?_append_blank blank absent
    exact (bare_cons absent).mpr (ih ((bare_cons still).mp bare))
  | found s t rest h ih =>
    obtain ⟨tag, behind, found, rfl⟩ := SpacedTag.exists_tag h
    have longer : Tag.front? (trimStart (s ++ [d])) = some (tag, behind ++ [d]) := by
      rw [trimStart_append_singleton blank, if_neg]
      · exact Tag.front?_append found [d]
      · intro empty
        rw [empty] at found
        cases found
    obtain ⟨⟨before, after⟩, later⟩ := (bare_tag longer).mp bare
    obtain ⟨before, _⟩ := takeWhile_append_singleton before blank
    obtain ⟨after, whole, whole'⟩ := takeWhile_append_singleton after blank
    rw [whole'] at later
    rw [whole] at ih
    exact (bare_tag found).mpr ⟨⟨before, after⟩, by rw [whole]; exact ih later⟩

end HtmlReflow
