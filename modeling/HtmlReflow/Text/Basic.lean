namespace HtmlReflow

/-- A text is the list of its characters, so every rule about a text is a rule about a list. -/
abbrev Text := List Char

/-- Number of bytes of the UTF-8 form, the unit of every size that is reported. -/
def byteLength (s : Text) : Nat := s.foldr (fun c n => c.utf8Size + n) 0

@[simp] theorem byteLength_nil : byteLength [] = 0 := rfl

@[simp] theorem byteLength_cons (c : Char) (s : Text) :
    byteLength (c :: s) = c.utf8Size + byteLength s := rfl

@[simp] theorem byteLength_append (s t : Text) :
    byteLength (s ++ t) = byteLength s + byteLength t := by
  induction s with
  | nil => rw [List.nil_append, byteLength_nil, Nat.zero_add]
  | cons c s ih => rw [List.cons_append, byteLength_cons, byteLength_cons, ih, Nat.add_assoc]

def afterToken? (token s : Text) : Option Text := List.isPrefixOf? token s

theorem afterToken?_nil (s : Text) : afterToken? [] s = some s := by
  cases s <;> rfl

theorem afterToken?_cons_nil (t : Char) (token : Text) : afterToken? (t :: token) [] = none := rfl

theorem afterToken?_cons_cons (t c : Char) (token s : Text) :
    afterToken? (t :: token) (c :: s) = if t == c then afterToken? token s else none := rfl

theorem afterToken?_eq_some {token s rest : Text} :
    afterToken? token s = some rest ↔ s = token ++ rest := by
  induction token generalizing s with
  | nil => rw [afterToken?_nil, Option.some.injEq, List.nil_append]
  | cons t token ih =>
    cases s with
    | nil => simp [afterToken?_cons_nil]
    | cons c s =>
      rw [afterToken?_cons_cons]
      by_cases same : t = c
      · simp [same, ih]
      · have other : ¬ c = t := fun e => same e.symm
        simp [same, other]

end HtmlReflow
