import HtmlReflow.Proofs.Respaced
import HtmlReflow.Proofs.Restore

namespace HtmlReflow
namespace Marked

/-- A marked text in which every underscore is part of a mark and no mark is there twice. -/
structure Pristine (n : Nat) (m : Marked) : Prop where
  closed : Closed m
  bounded : ∀ i ∈ marks m, i < n
  nodup : (marks m).Nodup
  free : .plain '_' ∉ m

variable {n i : Nat} {m m₁ m₂ : Marked} {c : Char} {contents : List Text} {a b s t : Text}

@[simp] theorem pristine_nil : Pristine n [] := ⟨trivial, by simp, by simp, by simp⟩

theorem pristine_plain : Pristine n (.plain c :: m) ↔ c ≠ '_' ∧ Pristine n m := by
  constructor
  · intro given
    obtain ⟨closed, bounded, nodup, free⟩ := given
    rw [List.mem_cons, not_or] at free
    exact ⟨fun same => free.1 (by rw [same]), closed, bounded, nodup, free.2⟩
  · intro given
    obtain ⟨other, closed, bounded, nodup, free⟩ := given
    refine ⟨closed, bounded, nodup, ?_⟩
    rw [List.mem_cons, not_or]
    exact ⟨fun same => other (Piece.plain.inj same).symm, free⟩

theorem pristine_found : Pristine n (.found i :: m) ↔
    (∃ rest, m = ofText ['<', '/'] ++ rest) ∧ i < n ∧ i ∉ marks m ∧ Pristine n m := by
  constructor
  · intro given
    obtain ⟨closed, bounded, nodup, free⟩ := given
    obtain ⟨other, nodup⟩ := List.nodup_cons.mp nodup
    exact ⟨closed.1, bounded i (by simp), other, closed.2, fun j member => bounded j (by simp [member]),
      nodup, fun member => free (List.mem_cons_of_mem _ member)⟩
  · intro given
    obtain ⟨behind, bound, other, closed, bounded, nodup, free⟩ := given
    refine ⟨⟨behind, closed⟩, fun j member => ?_, List.nodup_cons.mpr ⟨other, nodup⟩, by simpa using free⟩
    rcases List.mem_cons.mp member with rfl | member
    · exact bound
    · exact bounded j member

theorem Pristine.sublist (pristine : Pristine n m₂) (sub : m₁.Sublist m₂) (closed : Closed m₁) :
    Pristine n m₁ where
  closed := closed
  bounded := fun i member => pristine.bounded i ((sub.filterMap _).subset member)
  nodup := pristine.nodup.sublist (sub.filterMap _)
  free := fun member => pristine.free (sub.subset member)

theorem Pristine.right (pristine : Pristine n (m₁ ++ m₂)) : Pristine n m₂ :=
  pristine.sublist (List.sublist_append_right m₁ m₂) pristine.closed.right

theorem Pristine.tail {piece : Piece Nat} (pristine : Pristine n (piece :: m)) : Pristine n m :=
  pristine.sublist (List.sublist_cons_self piece m) (Closed.tail pristine.closed)

theorem Pristine.free_spell (pristine : Pristine n m) (free : ∀ content ∈ contents, '_' ∉ content) :
    '_' ∉ spell (contentAt contents) m := by
  intro member
  obtain ⟨piece, there, inside⟩ := List.mem_flatMap.mp member
  cases piece with
  | plain c =>
    have same : '_' = c := by simpa [Piece.render] using inside
    subst same
    exact pristine.free there
  | found i =>
    have inside : '_' ∈ contents.getD i [] := inside
    by_cases bound : i < contents.length
    · rw [List.getD_eq_getElem _ _ bound] at inside
      exact free _ (List.getElem_mem bound) inside
    · rw [List.getD_eq_default _ _ (Nat.le_of_not_lt bound)] at inside
      cases inside

theorem Pristine.unforged (pristine : Pristine contents.length m)
    (free : ∀ content ∈ contents, '_' ∉ content) : Unforged contents m :=
  unforged_of_clean pristine.closed pristine.bounded pristine.nodup fun inside =>
    pristine.free_spell free (inside.subset (by decide))

/-- Each placeholder that can be read in the text is a mark. -/
theorem Pristine.cut (pristine : Pristine n m) (bound : i < n)
    (same : spell placeholder m = a ++ (placeholder i ++ b)) :
    ∃ m₁ m₂, m = m₁ ++ .found i :: m₂ ∧ spell placeholder m₁ = a := by
  have size : (List.replicate n ([] : Text)).length = n := List.length_replicate
  have unforged : Unforged (List.replicate n []) m := by
    refine Pristine.unforged (by rwa [size]) fun content member => ?_
    rw [List.eq_of_mem_replicate member]
    exact List.not_mem_nil
  rw [← partlyAt_zero (List.replicate n [])] at same ⊢
  exact unforged.cut (by rwa [size]) same

theorem Pristine.infix_iff (pristine : Pristine n m) (bound : i < n) :
    placeholder i <:+: spell placeholder m ↔ i ∈ marks m := by
  constructor
  · intro given
    obtain ⟨a, b, same⟩ := given
    obtain ⟨m₁, m₂, rfl, _⟩ := pristine.cut bound (by rw [← same, List.append_assoc])
    simp
  · intro member
    obtain ⟨m₁, m₂, rfl⟩ := List.append_of_mem (mem_marks.mp member)
    rw [spell_append, spell_found]
    exact List.infix_append' _ _ _

theorem Pristine.once (pristine : Pristine n m) (bound : i < n) {a' b' : Text}
    (first : spell placeholder m = a ++ (placeholder i ++ b))
    (second : spell placeholder m = a' ++ (placeholder i ++ b')) : a = a' := by
  obtain ⟨m₁, m₂, rfl, rfl⟩ := pristine.cut bound first
  obtain ⟨m₃, m₄, same, rfl⟩ := pristine.cut bound second
  have left : .found i ∉ m₁ := fun member =>
    (notMem_of_nodup pristine.nodup).1 (mem_marks.mpr member)
  have right : .found i ∉ m₃ := fun member =>
    (notMem_of_nodup (same ▸ pristine.nodup)).1 (mem_marks.mpr member)
  rw [(append_cons_inj_of_notMem_left left right same).1]

theorem Pristine.respaced {angle : Bool} (pristine : Pristine n m)
    (r : Respaced angle (spell placeholder m) t) :
    ∃ m', t = spell placeholder m' ∧ Pristine n m' ∧ marks m' = marks m := by
  induction m generalizing angle t with
  | nil =>
    cases r
    exact ⟨[], rfl, pristine_nil, rfl⟩
  | cons piece m ih =>
    cases piece with
    | plain c =>
      obtain ⟨other, pristine⟩ := pristine_plain.mp pristine
      rw [spell_plain] at r
      cases r with
      | keep _ r =>
        obtain ⟨m', rfl, pristine', same⟩ := ih pristine r
        exact ⟨.plain c :: m', rfl, pristine_plain.mpr ⟨other, pristine'⟩, same⟩
      | space _ r =>
        obtain ⟨m', rfl, pristine', same⟩ := ih pristine r
        exact ⟨.plain ' ' :: m', rfl, pristine_plain.mpr ⟨by decide, pristine'⟩, same⟩
      | drop _ _ r =>
        obtain ⟨m', rfl, pristine', same⟩ := ih pristine r
        exact ⟨m', rfl, pristine', same⟩
    | found i =>
      obtain ⟨⟨rest, behind⟩, bound, other, pristine⟩ := pristine_found.mp pristine
      rw [spell_found] at r
      obtain ⟨t₁, rfl, r₁⟩ := r.append_left_word (solid_placeholder i) (placeholder_ne_nil i)
      obtain ⟨m', rfl, pristine', same⟩ := ih pristine r₁
      -- No blank stands between the mark and the closing tag behind it.
      have closing : ∃ t₂, spell placeholder m' = ['<', '/'] ++ t₂ := by
        rw [behind, spell_append, spell_ofText] at r₁
        obtain ⟨t₂, written, r₂⟩ := r₁.cons_left (by decide)
        obtain ⟨t₃, rfl, _⟩ := r₂.cons_left (by decide)
        exact ⟨t₃, written⟩
      obtain ⟨t₂, written⟩ := closing
      obtain ⟨rest', shape, _⟩ := eq_ofText_append foreign_closing written
      exact ⟨.found i :: m', rfl, pristine_found.mpr ⟨⟨rest', shape⟩, bound, same ▸ other, pristine'⟩,
        by rw [marks_found, marks_found, same]⟩

end Marked
end HtmlReflow
