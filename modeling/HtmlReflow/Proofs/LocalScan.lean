import HtmlReflow.Scan

namespace HtmlReflow.Pattern

variable {α : Type} {p : Pattern α} {f : α → Text} {c : Char} {u : Text}

/-- Every occurrence starts with `c`. -/
def StartsWith (p : Pattern α) (c : Char) : Prop := ∀ d s, d ≠ c → p.front? (d :: s) = none

theorem StartsWith.pieces_append (starts : p.StartsWith c) (free : c ∉ u) (v : Text) :
    p.pieces (u ++ v) = u.map .plain ++ p.pieces v := by
  induction u with
  | nil => rfl
  | cons d u ih =>
    rw [List.mem_cons, not_or] at free
    have none := starts d (u ++ v) (Ne.symm free.1)
    rw [List.cons_append, p.pieces_cons_of_none none, ih free.2]
    rfl

theorem StartsWith.replace_append (starts : p.StartsWith c) (free : c ∉ u) (v : Text) :
    p.replace f (u ++ v) = u ++ p.replace f v := by
  have plain : (u.map Piece.plain).flatMap (Piece.render f) = u := by
    induction u with
    | nil => rfl
    | cons d u ih =>
      rw [List.map_cons, List.flatMap_cons, ih fun member => free (List.mem_cons_of_mem d member)]
      rfl
  rw [replace, starts.pieces_append free, List.flatMap_append, plain, replace]

/-- No reading reaches a `c`. -/
def Stops (p : Pattern α) (c : Char) : Prop :=
  ∀ u v, p.front? (u ++ c :: v) = (p.front? u).map fun x => (x.1, x.2 ++ c :: v)

/-- A character that stops all readings parts a text in two that are scanned apart. -/
theorem Stops.replace_append_cons (stops : p.Stops c) (u v : Text) :
    p.replace f (u ++ c :: v) = p.replace f u ++ c :: p.replace f v := by
  induction u using p.scan_induction with
  | done =>
    have none := stops [] v
    rw [p.front?_nil, List.nil_append, Option.map_none] at none
    rw [p.replace_nil, List.nil_append, List.nil_append, p.replace_cons_of_none _ none]
  | plain d u h ih =>
    have none := stops (d :: u) v
    rw [h, List.cons_append, Option.map_none] at none
    rw [List.cons_append, p.replace_cons_of_none _ none, p.replace_cons_of_none _ h, ih]
    rfl
  | found u a rest h ih =>
    have found := stops u v
    rw [h, Option.map_some] at found
    rw [p.replace_of_some _ found, p.replace_of_some _ h, ih, List.append_assoc]

end HtmlReflow.Pattern
