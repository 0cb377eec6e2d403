import HtmlReflow.Text.Basic

namespace HtmlReflow

/-- What a scan looks for. `front?` reads one occurrence at the front of a text and gives the rest;
    `text` is how an occurrence is written. Reading loses nothing and never reads nothing, so a scan
    always moves on. -/
structure Pattern (α : Type) where
  front? : Text → Option (α × Text)
  text : α → Text
  text_append : ∀ {s a rest}, front? s = some (a, rest) → text a ++ rest = s
  text_ne_nil : ∀ {s a rest}, front? s = some (a, rest) → text a ≠ []

/-- A scanned text consists of occurrences and of the characters that belong to none. -/
inductive Piece (α : Type) where
  | plain (c : Char)
  | found (a : α)
  deriving DecidableEq, Repr

/-- How a piece is written, when `f` says how occurrences are written. -/
def Piece.render {α : Type} (f : α → Text) : Piece α → Text
  | .plain c => [c]
  | .found a => f a

namespace Pattern

variable {α : Type} (p : Pattern α)

theorem length_lt {s rest : Text} {a : α} (h : p.front? s = some (a, rest)) :
    rest.length < s.length := by
  have same := p.text_append h
  have pos := List.length_pos_iff.mpr (p.text_ne_nil h)
  rw [← same, List.length_append]
  omega

/-- The scan, with the pieces found so far in `done`, last first. -/
def piecesFrom (done : List (Piece α)) (s : Text) : List (Piece α) :=
  match _h : p.front? s with
  | some (a, rest) => piecesFrom (.found a :: done) rest
  | none =>
    match s with
    | [] => done.reverse
    | c :: rest => piecesFrom (.plain c :: done) rest
termination_by s.length
decreasing_by
  · exact p.length_lt _h
  · exact Nat.lt_succ_self _

/-- Scans a text from left to right. At each place an occurrence is taken if there is one, and the
    scan goes on behind it; so occurrences do not overlap and the leftmost wins. -/
def pieces (s : Text) : List (Piece α) := p.piecesFrom [] s

theorem piecesFrom_of_some (done : List (Piece α)) {s rest : Text} {a : α}
    (h : p.front? s = some (a, rest)) :
    p.piecesFrom done s = p.piecesFrom (.found a :: done) rest := by
  rw [piecesFrom]
  split
  · rename_i h'
    rw [h] at h'
    cases h'
    rfl
  · rename_i h'
    rw [h] at h'
    cases h'

theorem piecesFrom_cons_of_none (done : List (Piece α)) {c : Char} {s : Text}
    (h : p.front? (c :: s) = none) :
    p.piecesFrom done (c :: s) = p.piecesFrom (.plain c :: done) s := by
  rw [piecesFrom]
  split
  · rename_i h'
    rw [h] at h'
    cases h'
  · rfl

theorem front?_nil : p.front? [] = none := by
  cases h : p.front? [] with
  | none => rfl
  | some x => exact absurd (p.length_lt (show p.front? [] = some (x.1, x.2) from h)) (by simp)

theorem piecesFrom_nil (done : List (Piece α)) : p.piecesFrom done [] = done.reverse := by
  rw [piecesFrom]
  split
  · rename_i h
    rw [p.front?_nil] at h
    cases h
  · rfl

theorem piecesFrom_eq (done : List (Piece α)) (s : Text) :
    p.piecesFrom done s = done.reverse ++ p.pieces s := by
  unfold pieces
  generalize hn : s.length = n
  induction n using Nat.strongRecOn generalizing done s with
  | ind n ih =>
    cases h : p.front? s with
    | some x =>
      obtain ⟨a, rest⟩ := x
      have shorter : rest.length < n := hn ▸ p.length_lt h
      rw [p.piecesFrom_of_some done h, p.piecesFrom_of_some [] h,
        ih _ shorter _ rest rfl, ih _ shorter [.found a] rest rfl]
      simp
    | none =>
      cases s with
      | nil => simp [piecesFrom_nil]
      | cons c s =>
        have shorter : s.length < n := by simp at hn; omega
        rw [p.piecesFrom_cons_of_none done h, p.piecesFrom_cons_of_none [] h,
          ih _ shorter _ s rfl, ih _ shorter [.plain c] s rfl]
        simp

@[simp] theorem pieces_nil : p.pieces [] = [] := p.piecesFrom_nil []

theorem pieces_of_some {s rest : Text} {a : α} (h : p.front? s = some (a, rest)) :
    p.pieces s = .found a :: p.pieces rest := by
  unfold pieces
  rw [p.piecesFrom_of_some [] h, piecesFrom_eq]
  rfl

theorem pieces_cons_of_none {c : Char} {s : Text} (h : p.front? (c :: s) = none) :
    p.pieces (c :: s) = .plain c :: p.pieces s := by
  unfold pieces
  rw [p.piecesFrom_cons_of_none [] h, piecesFrom_eq]
  rfl

/-- A text with every occurrence of `p` replaced by what `f` makes of it and all else left alone. -/
def replace (f : α → Text) (s : Text) : Text := (p.pieces s).flatMap (Piece.render f)

@[simp] theorem replace_nil (f : α → Text) : p.replace f [] = [] := by simp [replace]

theorem replace_of_some (f : α → Text) {s rest : Text} {a : α}
    (h : p.front? s = some (a, rest)) : p.replace f s = f a ++ p.replace f rest := by
  simp [replace, p.pieces_of_some h, Piece.render]

theorem replace_cons_of_none (f : α → Text) {c : Char} {s : Text}
    (h : p.front? (c :: s) = none) : p.replace f (c :: s) = c :: p.replace f s := by
  simp [replace, p.pieces_cons_of_none h, Piece.render]

/-- The cases of a scan: the end, an occurrence, a character that starts none. -/
theorem scan_induction {motive : Text → Prop} (done : motive [])
    (found : ∀ s a rest, p.front? s = some (a, rest) → motive rest → motive s)
    (plain : ∀ c s, p.front? (c :: s) = none → motive s → motive (c :: s)) (s : Text) :
    motive s := by
  generalize hn : s.length = n
  induction n using Nat.strongRecOn generalizing s with
  | ind n ih =>
    cases h : p.front? s with
    | some x => exact found s x.1 x.2 h (ih _ (hn ▸ p.length_lt h) x.2 rfl)
    | none =>
      cases s with
      | nil => exact done
      | cons c s => exact plain c s h (ih _ (by simp at hn; omega) s rfl)

theorem replace_text (s : Text) : p.replace p.text s = s := by
  induction s using p.scan_induction with
  | done => simp
  | found s a rest h ih => rw [p.replace_of_some _ h, ih, p.text_append h]
  | plain c s h ih => rw [p.replace_cons_of_none _ h, ih]

end Pattern
end HtmlReflow
