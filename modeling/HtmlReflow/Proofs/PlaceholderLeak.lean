import HtmlReflow.Proofs.Preservation

namespace HtmlReflow

variable {u c s t : Text} {angle : Bool} {o : Options}

theorem Yields.not_front (solid : Solid u) (nonempty : u ≠ []) (yields : Yields s) : ¬ u <+: s := by
  intro given
  obtain ⟨rest, rfl⟩ := given
  obtain ⟨d, u, rfl⟩ := List.exists_cons_of_ne_nil nonempty
  obtain ⟨blank, other, _⟩ := solid.head
  rcases yields_cons_iff.mp yields with h | h
  · rw [blank] at h; cases h
  · exact other h

theorem Yields.replaceFirst (solid : Solid u) (nonempty : u ≠ []) (yields : Yields s) :
    Yields (replaceFirst u c s) := by
  have front := yields.not_front solid nonempty
  obtain ⟨d, rest, rfl, free⟩ := yields
  rw [replaceFirst_cons front]
  exact yields_cons_iff.mpr free

/-- Blanks that move do not change which occurrence of a solid word is the first. -/
theorem Respaced.replaceFirst (solid : Solid u) (nonempty : u ≠ []) (c : Text)
    (r : Respaced angle s t) : Respaced angle (replaceFirst u c s) (replaceFirst u c t) := by
  induction s generalizing angle t with
  | nil =>
    cases r
    rw [replaceFirst_nil nonempty]
    exact .done
  | cons d s ih =>
    -- Either both searches end here, or both pass what stands at the front.
    by_cases front : u <+: d :: s
    · obtain ⟨rest, same⟩ := front
      rw [← same] at r ⊢
      obtain ⟨t, rfl, behind⟩ := r.append_left_word solid nonempty
      rw [replaceFirst_append, replaceFirst_append]
      exact behind.append_left c
    · rw [replaceFirst_cons front]
      cases r with
      | @keep _ _ _ t r =>
        have front' : ¬ u <+: d :: t := by
          intro given
          obtain ⟨rest, same⟩ := given
          obtain ⟨e, u, rfl⟩ := List.exists_cons_of_ne_nil nonempty
          obtain ⟨rfl, rfl⟩ := List.cons.inj same
          rw [beq_eq_false_iff_ne.mpr solid.head.2.2] at r
          obtain ⟨s, rfl, _⟩ := r.append_right_solid solid.tail
          exact front ⟨s, rfl⟩
        rw [replaceFirst_cons front']
        exact .keep d (ih r)
      | @space _ _ _ t blank r =>
        have front' : ¬ u <+: ' ' :: t :=
          Yields.not_front solid nonempty (yields_cons_iff.mpr (.inl (by decide)))
        rw [replaceFirst_cons front']
        exact .space blank (ih r)
      | drop blank free r =>
        exact .drop blank (free.imp id (Yields.replaceFirst solid nonempty)) (ih r)

theorem Respaced.restoreFrom (contents : List Text) (next : Nat) (r : Respaced angle s t) :
    Respaced angle (restoreFrom next contents s) (restoreFrom next contents t) := by
  induction contents generalizing next s t with
  | nil => exact r
  | cons content contents ih =>
    exact ih (next + 1) (r.replaceFirst (solid_placeholder next) (placeholder_ne_nil next) content)

theorem infix_restore_collapseBlanks (contents : List Text) (solid : Solid u) :
    u <:+: restore contents (collapseBlanks s) ↔ u <:+: restore contents s := by
  refine collapseBlanks_induction
    (motive := fun t => u <:+: restore contents t ↔ u <:+: restore contents s) ?_ Iff.rfl
  intro a b r same
  rw [restore, (r.restoreFrom contents 0).infix_iff solid]
  exact same

theorem infix_minify_iff (solid : Solid u) :
    u <:+: minify o s ↔
      u <:+: restore (shield s).contents
        (if o.removeComments then stripComments o.keepConditionalComments (shield s).text
          else (shield s).text) := by
  rw [minify, infix_trim_iff fun c member => (solid c member).1, tidy]
  split
  · exact infix_restore_collapseBlanks _ solid
  · rfl

theorem clean_restore_shield (clean : ¬ placeholderStart <:+: s) :
    ¬ placeholderStart <:+: restore (shield s).contents (shield s).text := by
  rw [contents_shield]
  exact (intact_shield clean).restore.2

theorem leak_of_split_start (keep : Bool) :
    placeholderStart <:+: restore (shield "__PRE<!---->SERVED_".toList).contents
      (stripComments keep (shield "__PRE<!---->SERVED_".toList).text) := by
  cases keep <;> decide +kernel

/-- A placeholder leaks out of a text without one only where comments are removed, and then only if it
    is there once they are removed and the contents are back. -/
theorem leak_iff_removed (o : Options) :
    ((∀ s, ¬ placeholderStart <:+: s → ¬ placeholderStart <:+: minify o s) ↔
      o.removeComments = false) ∧
    ∀ s, ¬ placeholderStart <:+: s → (placeholderStart <:+: minify o s ↔
      o.removeComments = true ∧ placeholderStart <:+:
        restore (shield s).contents (stripComments o.keepConditionalComments (shield s).text)) := by
  have leak : ∀ s, ¬ placeholderStart <:+: s → (placeholderStart <:+: minify o s ↔
      o.removeComments = true ∧ placeholderStart <:+:
        restore (shield s).contents (stripComments o.keepConditionalComments (shield s).text)) := by
    intro s clean
    rw [infix_minify_iff solid_placeholderStart]
    cases removed : o.removeComments with
    | false => simpa using clean_restore_shield clean
    | true => simp
  refine ⟨⟨fun safe => ?_, fun kept s clean leaked => ?_⟩, leak⟩
  · by_contra removed
    have clean : ¬ placeholderStart <:+: "__PRE<!---->SERVED_".toList := by decide +kernel
    exact safe _ clean ((leak _ clean).mpr ⟨by simpa using removed, leak_of_split_start _⟩)
  · rw [leak s clean, kept] at leaked
    cases leaked.1

theorem split_start_leaks :
    ¬ placeholderStart <:+: "__PRE<!---->SERVED_".toList ∧
      placeholderStart <:+: minify ⟨true, true, true, true⟩ "__PRE<!---->SERVED_".toList :=
  ⟨by decide +kernel, by decide +kernel⟩

end HtmlReflow
