import HtmlReflow.Text.Basic

namespace HtmlReflow

/-- The characters up to the first `>`, and what stands behind that `>`. -/
def upToAngle? (s : Text) : Option (Text × Text) :=
  match s.dropWhile (· != '>') with
  | [] => none
  | _ :: rest => some (s.takeWhile (· != '>'), rest)

@[simp] theorem upToAngle?_nil : upToAngle? [] = none := rfl

@[simp] theorem upToAngle?_cons_angle (s : Text) : upToAngle? ('>' :: s) = some ([], s) := rfl

theorem upToAngle?_cons {c : Char} (h : c ≠ '>') (s : Text) :
    upToAngle? (c :: s) = (upToAngle? s).map (fun x => (c :: x.1, x.2)) := by
  have hb : (c != '>') = true := by simpa using h
  simp only [upToAngle?, List.dropWhile_cons, hb, List.takeWhile_cons]
  cases s.dropWhile (· != '>') <;> rfl

theorem upToAngle?_append {a : Text} (free : '>' ∉ a) (rest : Text) :
    upToAngle? (a ++ '>' :: rest) = some (a, rest) := by
  induction a with
  | nil => rfl
  | cons c a ih =>
    simp only [List.mem_cons, not_or] at free
    rw [List.cons_append, upToAngle?_cons (fun e => free.1 e.symm), ih free.2]
    rfl

theorem upToAngle?_eq_some {s a rest : Text} :
    upToAngle? s = some (a, rest) ↔ s = a ++ '>' :: rest ∧ '>' ∉ a := by
  constructor
  · intro h
    induction s generalizing a with
    | nil => cases h
    | cons c s ih =>
      by_cases angle : c = '>'
      · subst angle
        cases h
        simp
      · rw [upToAngle?_cons angle] at h
        cases found : upToAngle? s with
        | none => rw [found] at h; cases h
        | some x =>
          rw [found] at h
          cases h
          obtain ⟨same, free⟩ := ih found
          have angle' : ¬ '>' = c := fun e => angle e.symm
          exact ⟨by rw [List.cons_append, ← same], by simp [angle', free]⟩
  · rintro ⟨rfl, free⟩
    exact upToAngle?_append free rest

/-- A tag: `<`, at least one character other than `>`, and `>`. -/
structure Tag where
  body : Text
  deriving DecidableEq, Repr

namespace Tag

def text (t : Tag) : Text := '<' :: (t.body ++ ['>'])

def front? : Text → Option (Tag × Text)
  | '<' :: s =>
    match upToAngle? s with
    | some (c :: body, rest) => some (⟨c :: body⟩, rest)
    | _ => none
  | _ => none

theorem text_append {s rest : Text} {t : Tag} (h : front? s = some (t, rest)) :
    t.text ++ rest = s := by
  unfold front? at h
  split at h
  · split at h
    · rename_i found
      cases h
      simp [text, (upToAngle?_eq_some.mp found).1]
    · cases h
  · cases h

theorem text_ne_nil (t : Tag) : t.text ≠ [] := by simp [text]

end Tag
end HtmlReflow
