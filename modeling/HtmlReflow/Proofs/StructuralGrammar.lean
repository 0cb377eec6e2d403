import HtmlReflow.Markup.Structural
import HtmlReflow.Proofs.BlockGrammar
import HtmlReflow.Proofs.LocalScan

namespace HtmlReflow

theorem solid_of_map_foldCase {name : Text} (solid : Solid (name.map foldCase)) : Solid name := by
  intro c member
  have folded := solid _ (List.mem_map_of_mem member)
  refine ⟨?_, fun same => folded.2.1 (by rw [same]; rfl), fun same => folded.2.2 (by rw [same]; rfl)⟩
  cases blank : isBlank c with
  | false => rfl
  | true =>
    rw [foldCase_of_blank blank, blank] at folded
    exact absurd folded.1 (by decide)

theorem solid_of_structuralName {name : Text} (named : name.map foldCase ∈ structuralNames) :
    Solid name := by
  have letters : structuralNames.all (·.all fun c => !isBlank c && c != '<' && c != '>') = true := by
    decide +kernel
  have solid : Solid (name.map foldCase) := by
    intro c member
    have letter := List.all_eq_true.mp (List.all_eq_true.mp letters _ named) c member
    simpa [and_assoc] using letter
  exact solid_of_map_foldCase solid

namespace StructuralClose

variable {s rest : Text} {tag : StructuralClose}

theorem text_append_eq (tag : StructuralClose) (rest : Text) :
    tag.text ++ rest = '<' :: '/' :: (tag.name ++ '>' :: rest) := by
  simp [text]

theorem startsWith : pattern.StartsWith '<' := by
  intro c s other
  show front? (c :: s) = none
  unfold front?
  split
  · rename_i same
    exact absurd (List.cons.inj same).1 other
  · rfl

theorem named?_eq_some {name : Text} :
    named? s name = some (tag, rest) ↔ s = tag.name ++ '>' :: rest ∧ tag.name.map foldCase = name := by
  unfold named?
  constructor
  · intro found
    split at found
    · rename_i read
      cases found
      exact word?_eq_some.mp read
    · cases found
  · rintro ⟨rfl, folded⟩
    rw [word?_eq_some.mpr ⟨rfl, folded⟩]
    rfl

theorem front?_eq_some :
    pattern.front? s = some (tag, rest) ↔
      s = tag.text ++ rest ∧ tag.name.map foldCase ∈ structuralNames := by
  constructor
  · intro found
    refine ⟨(pattern.text_append found).symm, ?_⟩
    change front? s = some (tag, rest) at found
    unfold front? at found
    split at found
    · obtain ⟨name, member, read⟩ := List.exists_of_findSome?_eq_some found
      rwa [(named?_eq_some.mp read).2]
    · cases found
  · rintro ⟨rfl, named⟩
    have here : named? (tag.name ++ '>' :: rest) (tag.name.map foldCase) = some (tag, rest) :=
      named?_eq_some.mpr ⟨rfl, rfl⟩
    rw [text_append_eq]
    show structuralNames.findSome? (named? (tag.name ++ '>' :: rest)) = some (tag, rest)
    cases found : structuralNames.findSome? (named? (tag.name ++ '>' :: rest)) with
    | none => rw [List.findSome?_eq_none_iff.mp found _ named] at here; cases here
    | some x =>
      obtain ⟨tag', rest'⟩ := x
      obtain ⟨name, member, read⟩ := List.exists_of_findSome?_eq_some found
      obtain ⟨same, rfl⟩ := named?_eq_some.mp read
      obtain ⟨sameName, rfl⟩ := append_cons_inj_of_notMem_left
        (solid_of_structuralName named).right_free (solid_of_structuralName member).right_free same
      obtain ⟨name⟩ := tag
      obtain ⟨name'⟩ := tag'
      cases sameName
      rfl

end StructuralClose

namespace StructuralOpen

variable {s rest : Text} {tag : StructuralOpen}

theorem text_append_eq (tag : StructuralOpen) (rest : Text) :
    tag.text ++ rest = '<' :: (tag.name ++ tag.delimiter :: rest) := by
  simp [text]

theorem startsWith : pattern.StartsWith '<' := by
  intro c s other
  show front? (c :: s) = none
  unfold front?
  split
  · rename_i same
    exact absurd (List.cons.inj same).1 other
  · rfl

/-- The front of an opening tag as a scan finds it. -/
structure Proper (tag : StructuralOpen) : Prop where
  named : tag.name.map foldCase ∈ structuralNames
  delimited : (isBlank tag.delimiter || tag.delimiter == '>') = true

theorem Proper.solid (proper : tag.Proper) : Solid tag.name := solid_of_structuralName proper.named

theorem Proper.delimiter_ne (proper : tag.Proper) {c : Char}
    (solid : isBlank c = false ∧ c ≠ '<' ∧ c ≠ '>') : tag.delimiter ≠ c := by
  intro same
  have delimited := proper.delimited
  rw [same, solid.1, Bool.false_or, beq_iff_eq] at delimited
  exact solid.2.2 delimited

theorem Proper.delimiter_ne_left (proper : tag.Proper) : tag.delimiter ≠ '<' := by
  intro same
  have delimited := proper.delimited
  rw [same] at delimited
  cases delimited

theorem named?_eq_some {name : Text} :
    named? s name = some (tag, rest) ↔
      s = tag.name ++ tag.delimiter :: rest ∧ tag.name.map foldCase = name ∧
        (isBlank tag.delimiter || tag.delimiter == '>') = true := by
  unfold named?
  constructor
  · intro found
    split at found
    · rename_i read
      split at found
      · rename_i delimited
        cases found
        obtain ⟨same, folded⟩ := word?_eq_some.mp read
        exact ⟨same, folded, delimited⟩
      · cases found
    · cases found
  · rintro ⟨rfl, folded, delimited⟩
    rw [word?_eq_some.mpr ⟨rfl, folded⟩]
    exact if_pos delimited

/-- The name ends where the first character stands that cannot be in one, so it is read in one way. -/
theorem Proper.unique {tag' : StructuralOpen} {rest' : Text} (proper : tag.Proper)
    (proper' : tag'.Proper)
    (same : tag.name ++ tag.delimiter :: rest = tag'.name ++ tag'.delimiter :: rest') :
    tag' = tag ∧ rest' = rest := by
  have equal : tag'.name = tag.name ∧ tag'.delimiter :: rest' = tag.delimiter :: rest := by
    rcases List.append_eq_append_iff.mp same with ⟨k, long, cut⟩ | ⟨k, long, cut⟩
    · rcases List.cons_eq_append_iff.mp cut with ⟨rfl, head⟩ | ⟨k, rfl, _⟩
      · exact ⟨by rw [long, List.append_nil], head⟩
      · have member : tag.delimiter ∈ tag'.name := by simp [long]
        exact absurd rfl (proper.delimiter_ne (proper'.solid _ member))
    · rcases List.cons_eq_append_iff.mp cut with ⟨rfl, head⟩ | ⟨k, rfl, _⟩
      · exact ⟨by rw [long, List.append_nil], head.symm⟩
      · have member : tag'.delimiter ∈ tag.name := by simp [long]
        exact absurd rfl (proper'.delimiter_ne (proper.solid _ member))
  obtain ⟨name, delimiter⟩ := tag
  obtain ⟨name', delimiter'⟩ := tag'
  obtain ⟨rfl, both⟩ := equal
  cases both
  exact ⟨rfl, rfl⟩

theorem front?_eq_some :
    pattern.front? s = some (tag, rest) ↔ s = tag.text ++ rest ∧ tag.Proper := by
  constructor
  · intro found
    refine ⟨(pattern.text_append found).symm, ?_⟩
    change front? s = some (tag, rest) at found
    unfold front? at found
    split at found
    · obtain ⟨name, member, read⟩ := List.exists_of_findSome?_eq_some found
      obtain ⟨_, rfl, delimited⟩ := named?_eq_some.mp read
      exact ⟨member, delimited⟩
    · cases found
  · rintro ⟨rfl, proper⟩
    have here : named? (tag.name ++ tag.delimiter :: rest) (tag.name.map foldCase) = some (tag, rest) :=
      named?_eq_some.mpr ⟨rfl, rfl, proper.delimited⟩
    rw [text_append_eq]
    show structuralNames.findSome? (named? (tag.name ++ tag.delimiter :: rest)) = some (tag, rest)
    cases found : structuralNames.findSome? (named? (tag.name ++ tag.delimiter :: rest)) with
    | none => rw [List.findSome?_eq_none_iff.mp found _ proper.named] at here; cases here
    | some x =>
      obtain ⟨tag', rest'⟩ := x
      obtain ⟨name, member, read⟩ := List.exists_of_findSome?_eq_some found
      obtain ⟨same, rfl, delimited⟩ := named?_eq_some.mp read
      obtain ⟨rfl, rfl⟩ := proper.unique ⟨member, delimited⟩ same
      rfl

end StructuralOpen
end HtmlReflow
