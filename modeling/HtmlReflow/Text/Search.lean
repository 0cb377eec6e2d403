import HtmlReflow.Text.Basic

namespace HtmlReflow

variable {β : Type}

/-- Tries `read` at each position of a text in turn, the end included, with the characters passed so
    far in `passed`, last first. -/
def firstFrom (read : Text → Option β) (passed : Text) (s : Text) : Option (Text × β) :=
  match read s with
  | some b => some (passed.reverse, b)
  | none =>
    match s with
    | [] => none
    | c :: rest => firstFrom read (c :: passed) rest

/-- The least position at which `read` succeeds: the text before it, and what was read. -/
def first? (read : Text → Option β) (s : Text) : Option (Text × β) := firstFrom read [] s

theorem firstFrom_eq (read : Text → Option β) (passed s : Text) :
    firstFrom read passed s = (first? read s).map (fun x => (passed.reverse ++ x.1, x.2)) := by
  unfold first?
  induction s generalizing passed with
  | nil => unfold firstFrom; cases read [] <;> simp
  | cons c s ih =>
    unfold firstFrom
    cases read (c :: s) with
    | some b => simp
    | none =>
      simp only
      rw [ih (c :: passed), ih [c], Option.map_map]
      congr 1
      funext x
      simp

theorem first?_of_some {read : Text → Option β} {s : Text} {b : β} (h : read s = some b) :
    first? read s = some ([], b) := by
  unfold first? firstFrom
  simp [h]

theorem first?_nil_of_none {read : Text → Option β} (h : read [] = none) :
    first? read [] = none := by
  unfold first? firstFrom
  simp [h]

theorem first?_cons_of_none {read : Text → Option β} {c : Char} {s : Text}
    (h : read (c :: s) = none) :
    first? read (c :: s) = (first? read s).map (fun x => (c :: x.1, x.2)) := by
  conv => lhs; unfold first? firstFrom
  simp only [h]
  rw [firstFrom_eq]
  rfl

/-- A search splits the text: what it passed stands before a rest at which `read` succeeds. -/
theorem exists_rest_of_first? {read : Text → Option β} {s before : Text} {b : β}
    (h : first? read s = some (before, b)) : ∃ rest, s = before ++ rest ∧ read rest = some b := by
  induction s generalizing before with
  | nil =>
    cases hr : read [] with
    | none => rw [first?_nil_of_none hr] at h; cases h
    | some b' => rw [first?_of_some hr] at h; cases h; exact ⟨[], rfl, hr⟩
  | cons c s ih =>
    cases hr : read (c :: s) with
    | some b' => rw [first?_of_some hr] at h; cases h; exact ⟨c :: s, rfl, hr⟩
    | none =>
      rw [first?_cons_of_none hr] at h
      cases hs : first? read s with
      | none => rw [hs] at h; cases h
      | some x =>
        obtain ⟨before', b'⟩ := x
        rw [hs] at h
        cases h
        obtain ⟨rest, same, ok⟩ := ih hs
        exact ⟨rest, by rw [same]; rfl, ok⟩

/-- Puts `content` in place of the first `token` of a text; a text without it stays as it is. -/
def replaceFirst (token content s : Text) : Text :=
  match first? (afterToken? token) s with
  | some (before, rest) => before ++ (content ++ rest)
  | none => s

end HtmlReflow
