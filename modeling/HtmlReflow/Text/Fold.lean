import HtmlReflow.Text.Basic

namespace HtmlReflow

/-- ASCII capital letters become small ones; every other character stays. -/
def lowerAscii (s : Text) : Text := s.map Char.toLower

/-- Simple case folding, as far as it ends in ASCII: besides the capital letters, the long s folds to
    `s` and the Kelvin sign to `k`. -/
def foldCase (c : Char) : Char :=
  if c = '\u017F' then 's' else if c = '\u212A' then 'k' else c.toLower

/-- Reads `word`, given in small letters, in any case at the front of a text. The result is the word
    as it is written there, and the rest. -/
def word? (word s : Text) : Option (Text × Text) :=
  if (s.take word.length).map foldCase = word then
    some (s.take word.length, s.drop word.length)
  else none

theorem word?_eq_some {word s name rest : Text} :
    word? word s = some (name, rest) ↔ s = name ++ rest ∧ name.map foldCase = word := by
  unfold word?
  constructor
  · intro h
    split at h
    · rename_i same
      simp only [Option.some.injEq, Prod.mk.injEq] at h
      obtain ⟨rfl, rfl⟩ := h
      exact ⟨(List.take_append_drop _ _).symm, same⟩
    · cases h
  · rintro ⟨rfl, rfl⟩
    simp

end HtmlReflow
