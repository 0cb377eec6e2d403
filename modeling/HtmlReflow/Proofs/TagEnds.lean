import HtmlReflow.Proofs.DeclarationGrammar

namespace HtmlReflow

namespace Declaration

variable {read : Text → Option (Text × Text)} {stops : Char → Bool} {x : Text × Text} {c : Char}
  {name p s t : Text}

theorem dropWhile_append_cons {f : Char → Bool} (stop : f c = false) (s t : Text) :
    (s ++ c :: t).dropWhile f = s.dropWhile f ++ c :: t := by
  induction s with
  | nil => exact List.dropWhile_cons_of_neg (by simp [stop])
  | cons d s ih =>
    rw [List.cons_append, List.dropWhile_cons, List.dropWhile_cons, ih]
    split <;> rfl

theorem takeWhile_append_cons {f : Char → Bool} (stop : f c = false) (s t : Text) :
    (s ++ c :: t).takeWhile f = s.takeWhile f := by
  induction s with
  | nil => exact List.takeWhile_cons_of_neg (by simp [stop])
  | cons d s ih => rw [List.cons_append, List.takeWhile_cons, List.takeWhile_cons, ih]

theorem word?_append_cons (foreign : foldCase c ∉ name) (s t : Text) :
    word? name (s ++ c :: t) = (word? name s).map fun x => (x.1, x.2 ++ c :: t) := by
  cases here : word? name s with
  | some x =>
    obtain ⟨rfl, named⟩ := word?_eq_some.mp (show word? name s = some (x.1, x.2) from here)
    exact word?_eq_some.mpr ⟨by simp, named⟩
  | none =>
    cases there : word? name (s ++ c :: t) with
    | none => rfl
    | some x =>
      obtain ⟨same, named⟩ := word?_eq_some.mp (show _ = some (x.1, x.2) from there)
      have free : c ∉ x.1 := fun member => foreign (named ▸ List.mem_map_of_mem member)
      obtain ⟨rest, rfl⟩ := prefix_of_append_eq_append_cons free same.symm
      rw [word?_eq_some.mpr ⟨rfl, named⟩] at here
      cases here

/-- No assignment reaches over a character that is not part of one. -/
theorem assigned?_append_cons (foreign : foldCase c ∉ name) (solid : isBlank c = false) (other : c ≠ '=')
    (s t : Text) : assigned? name (s ++ c :: t) = (assigned? name s).map (· ++ c :: t) := by
  rw [assigned?, assigned?, word?_append_cons foreign]
  cases word? name s with
  | none => rfl
  | some x =>
    simp only [Option.map_some]
    rw [dropWhile_append_cons solid]
    cases x.2.dropWhile isBlank with
    | nil =>
      rw [List.nil_append]
      split
      · rename_i same
        exact absurd (List.cons.inj same).1 other
      · rfl
    | cons d rest =>
      by_cases equals : d = '='
      · subst equals
        simp only [List.cons_append, Option.map_some]
        rw [dropWhile_append_cons solid]
      · rw [List.cons_append]
        split
        · rename_i same
          exact absurd (List.cons.inj same).1 equals
        · split
          · rename_i same
            exact absurd (List.cons.inj same).1 equals
          · rfl

theorem skipQuote_append_cons (unquoted : isQuote c = false) (s t : Text) :
    skipQuote (s ++ c :: t) = skipQuote s ++ c :: t := by
  cases s with
  | nil => exact if_neg (by simp [unquoted])
  | cons d s =>
    rw [List.cons_append, skipQuote, skipQuote]
    split <;> rfl

/-- No reading reaches over the end of a tag. -/
def Stopped (read : Text → Option (Text × Text)) : Prop :=
  ∀ s t, read (s ++ '>' :: t) = (read s).map fun x => (x.1, x.2 ++ '>' :: t)

theorem value?_stopped : Stopped value? := by
  intro s t
  rw [value?, value?, takeWhile_append_cons (by decide), dropWhile_append_cons (by decide)]
  cases s.takeWhile isValueChar <;> rfl

theorem bind_stopped {found : Option Text} (stopped : Stopped read) (t : Text) :
    (found.map (· ++ '>' :: t)).bind read = (found.bind read).map fun x => (x.1, x.2 ++ '>' :: t) := by
  cases found with
  | none => rfl
  | some s => exact stopped s t

theorem skipQuote_stopped (stopped : Stopped read) : Stopped fun s => read (skipQuote s) := by
  intro s t
  beta_reduce
  rw [skipQuote_append_cons (by decide)]
  exact stopped (skipQuote s) t

theorem assigned?_stopped (foreign : '>' ∉ name) (stopped : Stopped read) :
    Stopped fun s => (assigned? name s).bind read := by
  have fixed : foldCase '>' = '>' := by decide
  intro s t
  beta_reduce
  rw [assigned?_append_cons (fixed ▸ foreign) (by decide) (by decide), bind_stopped stopped]

theorem word?_stopped (foreign : '>' ∉ name) (stopped : Stopped read) :
    Stopped fun s => (word? name s).bind fun x => read x.2 := by
  have fixed : foldCase '>' = '>' := by decide
  intro s t
  beta_reduce
  rw [word?_append_cons (fixed ▸ foreign)]
  cases word? name s with
  | none => rfl
  | some x => exact stopped x.2 t

theorem furthest?_stopped (stop : stops '>' = true) (stopped : Stopped read) :
    Stopped (furthest? stops read) := by
  intro s t
  induction s with
  | nil =>
    have here : furthest? stops read ('>' :: t) = read ('>' :: t) := if_pos stop
    rw [List.nil_append, here]
    exact stopped [] t
  | cons d s ih =>
    have here := stopped (d :: s) t
    rw [List.cons_append] at here
    rw [List.cons_append, furthest?, furthest?, ih, here]
    split
    · rfl
    · cases furthest? stops read s <;> rfl

theorem furthestBehind?_stopped (stop : stops '>' = true) (stopped : Stopped read) :
    Stopped (furthestBehind? stops read) := by
  intro s t
  cases s with
  | nil => exact if_pos stop
  | cons d s =>
    rw [List.cons_append, furthestBehind?, furthestBehind?, furthest?_stopped stop stopped]
    split <;> rfl

theorem charset?_stopped : Stopped charset? :=
  assigned?_stopped (by decide) (skipQuote_stopped value?_stopped)

theorem parameter?_stopped : Stopped parameter? := by
  have assignment : Stopped fun s => (assigned? charsetName s).bind value? :=
    assigned?_stopped (by decide) value?_stopped
  intro s t
  cases s with
  | nil => rfl
  | cons d s =>
    by_cases mark : d = ';'
    · subst mark
      rw [List.cons_append, parameter?, parameter?, dropWhile_append_cons (by decide)]
      exact assignment (s.dropWhile isBlank) t
    · have fails : ∀ s, parameter? (d :: s) = none := by
        intro s
        unfold parameter?
        split
        · rename_i same
          exact absurd (List.cons.inj same).1 mark
        · rfl
      rw [List.cons_append, fails, fails]
      rfl

theorem content?_stopped : Stopped content? :=
  assigned?_stopped (by decide) (skipQuote_stopped (furthest?_stopped (by decide) parameter?_stopped))

theorem contentType?_stopped : Stopped contentType? :=
  assigned?_stopped (by decide) (skipQuote_stopped
    (word?_stopped (by decide) (furthestBehind?_stopped (by decide) content?_stopped)))

theorem meta?_stopped (stopped : Stopped read) : Stopped (meta? read) := by
  have named : Stopped fun s => (word? metaName s).bind fun x => furthestBehind? closesTag read x.2 :=
    word?_stopped (by decide) (furthestBehind?_stopped (by decide) stopped)
  intro s t
  cases s with
  | nil => rfl
  | cons d s =>
    by_cases left : d = '<'
    · subst left
      exact named s t
    · have fails : ∀ s, meta? read (d :: s) = none := by
        intro s
        unfold meta?
        split
        · rename_i same
          exact absurd (List.cons.inj same).1 left
        · rfl
      rw [List.cons_append, fails, fails]
      rfl

theorem first?_of_stopped (stopped : Stopped read) (found : first? read s = some (p, x)) (t : Text) :
    first? read (s ++ '>' :: t) = some (p, x.1, x.2 ++ '>' :: t) := by
  obtain ⟨r, rfl, here⟩ := exists_rest_of_first? found
  have fails := fails_of_first? found
  rw [List.append_assoc]
  refine first?_append (fun a w cut nonempty => ?_) ?_
  · rw [← List.append_assoc, stopped, fails a w cut nonempty]
    rfl
  · rw [stopped, here]
    rfl

/-- Where nothing is found up to the end of a tag, the search goes on behind it. -/
theorem first?_behind_angle (stopped : Stopped read) (absent : first? read s = none) (t : Text) :
    first? read (s ++ '>' :: t) = (first? read t).map fun y => (s ++ '>' :: y.1, y.2) := by
  have fails := first?_eq_none_iff.mp absent
  induction s with
  | nil =>
    have none : read ('>' :: t) = none := by
      rw [show '>' :: t = [] ++ '>' :: t from rfl, stopped, fails [] [] rfl]
      rfl
    rw [List.nil_append, first?_cons_of_none none]
    rfl
  | cons d s ih =>
    have later : first? read s = none :=
      first?_eq_none_iff.mpr fun a r cut => fails (d :: a) r (by rw [cut, List.cons_append])
    have none : read (d :: (s ++ '>' :: t)) = none := by
      rw [← List.cons_append, stopped, fails [] (d :: s) rfl]
      rfl
    rw [List.cons_append, first?_cons_of_none none, ih later (first?_eq_none_iff.mp later), Option.map_map]
    rfl

variable {a : Text}

/-- A text up to the end of a tag, or none at all: what is found in it does not depend on what follows. -/
theorem first?_of_ended (stopped : Stopped read) (nothing : read [] = none) (ended : a = [] ∨ ['>'] <:+ a)
    (found : first? read a = some (p, x)) (t : Text) :
    first? read (a ++ t) = some (p, x.1, x.2 ++ t) ∧ x.2 ≠ [] := by
  rcases ended with rfl | ⟨s, rfl⟩
  · rw [first?_nil_of_none nothing] at found
    cases found
  · cases front : first? read s with
    | none =>
      rw [first?_behind_angle stopped front, first?_nil_of_none nothing] at found
      cases found
    | some y =>
      rw [first?_of_stopped stopped front] at found
      cases found
      refine ⟨?_, by simp⟩
      rw [List.append_assoc, List.singleton_append, first?_of_stopped stopped front]
      simp

theorem first?_behind_ended (stopped : Stopped read) (ended : a = [] ∨ ['>'] <:+ a)
    (absent : first? read a = none) (t : Text) :
    first? read (a ++ t) = (first? read t).map fun y => (a ++ y.1, y.2) := by
  rcases ended with rfl | ⟨s, rfl⟩
  · simp
  · cases front : first? read s with
    | some y =>
      rw [first?_of_stopped stopped front] at absent
      cases absent
    | none =>
      rw [List.append_assoc, List.singleton_append, first?_behind_angle stopped front]
      simp

end Declaration
end HtmlReflow
