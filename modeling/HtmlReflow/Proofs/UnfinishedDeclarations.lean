import HtmlReflow.Proofs.UnfinishedTags

namespace HtmlReflow

namespace Declaration

variable {read : Text → Option (Text × Text)} {opens : Text → Prop} {a l o r s y : Text}

/-- A form of a declaration: how it is read, and what stands in front of its value. -/
structure Form (read : Text → Option (Text × Text)) (opens : Text → Prop) : Prop where
  sound : Sound read opens
  stopped : Stopped read
  read_eq : ∀ o l, opens o → PlainValue l → read (o ++ l) = some (l, [])
  only : ∀ o l, opens o → PlainValue l → Only read (o ++ l) (l, [])

theorem charset_form : Form charset? OpensCharset where
  sound := charset?_sound
  stopped := charset?_stopped
  read_eq := fun _ _ opens => opens.charset?_eq
  only := fun _ _ opens => opens.only

theorem contentType_form : Form contentType? OpensContentType where
  sound := contentType?_sound
  stopped := contentType?_stopped
  read_eq := fun _ _ opens => opens.contentType?_eq
  only := fun _ _ opens => opens.only

/-- A text that ends in a value whose tag has not ended: up to the last `>` nothing is found, and behind
    it a declaration opens up to the value. -/
inductive Unfinished (find? : Text → Option (Text × Text)) (opens : Text → Prop) : Text → Text → Prop
  | intro {a y o l : Text} (ended : a = [] ∨ ['>'] <:+ a) (silent : find? a = none) (free : '>' ∉ y)
      (inside : OpensMeta opens o) (value : Value l) : Unfinished find? opens (a ++ (y ++ (o ++ l))) l

theorem Unfinished.value {find? : Text → Option (Text × Text)} (unfinished : Unfinished find? opens s l) :
    Value l := by
  cases unfinished with
  | intro _ _ _ _ value => exact value

theorem exists_last_angle (s : Text) : ∃ a y, s = a ++ y ∧ (a = [] ∨ ['>'] <:+ a) ∧ '>' ∉ y := by
  by_cases angle : '>' ∈ s
  · obtain ⟨y, a, split, free⟩ := List.eq_append_cons_of_mem (List.mem_reverse.mpr angle)
    refine ⟨a.reverse ++ ['>'], y.reverse, ?_, .inr (List.suffix_append _ _), by simpa using free⟩
    rw [← List.reverse_reverse s, split]
    simp
  · exact ⟨[], s, rfl, .inl rfl, angle⟩

namespace Form

theorem meta?_eq (form : Form read opens) (inside : OpensMeta opens o) (plain : PlainValue l) :
    meta? read (o ++ l) = some (l, []) := by
  cases inside with
  | @intro word gap o named apart free inside =>
    rw [List.cons_append, List.append_assoc, List.append_assoc, meta?_append named apart free]
    exact Declaration.furthest?_append (fun d member => free d (List.mem_of_mem_tail member))
      ((form.only o l inside plain).furthest?_eq (form.read_eq o l inside plain))

/-- A tag that opens further in front and has not ended either leads to the same value. -/
theorem meta?_only (form : Form read opens) (inside : OpensMeta opens o) (plain : PlainValue l)
    (free : '>' ∉ y) : Only (meta? read) (y ++ (o ++ l)) (l, []) := by
  intro r suffix b' found
  unfold meta? at found
  split at found
  · rename_i r
    obtain ⟨⟨name, rest⟩, front, last⟩ := Option.bind_eq_some_iff.mp found
    obtain ⟨d, z, behind, _, reached⟩ := exists_of_furthestBehind?_cons last
    have tail : z <:+ '<' :: r := by
      rw [(word?_eq_some.mp front).1, show rest = d :: z from behind]
      exact ⟨'<' :: (name ++ [d]), by simp⟩
    cases inside with
    | @intro word gap o named apart open' inside =>
      have through : ∀ c ∈ y ++ '<' :: (word ++ gap), closesTag c = false :=
        angle_free_append (closesTag_eq_false free) (List.forall_mem_cons.mpr
          ⟨by decide, angle_free_append (angle_free_of_named named (by decide)) open'⟩)
      have decided := (form.only o l inside plain).furthest?_append (form.read_eq o l inside plain) through
      have split : y ++ ('<' :: (word ++ (gap ++ o)) ++ l) = y ++ '<' :: (word ++ gap) ++ (o ++ l) := by simp
      rw [split] at suffix
      exact decided z (tail.trans suffix) b' reached
  · cases found

theorem value_of_find (form : Form read opens)
    (found : (first? (meta? read) s).map Prod.snd = some (l, r)) : Value l := by
  obtain ⟨⟨p, x⟩, found, rfl⟩ := Option.map_eq_some_iff.mp found
  obtain ⟨s, _, here⟩ := exists_rest_of_first? found
  obtain ⟨_, _, _, value⟩ := meta?_sound form.sound s l r here
  exact value

/-- The value that is found reaches to the end of the text exactly if its tag has not ended. -/
theorem find_eq_some_iff (form : Form read opens) (plain : PlainValue l) :
    (first? (meta? read) s).map Prod.snd = some (l, []) ↔
      Unfinished (fun s => (first? (meta? read) s).map Prod.snd) opens s l := by
  have stopped := meta?_stopped form.stopped
  constructor
  · intro found
    obtain ⟨⟨p, x⟩, found, rfl⟩ := Option.map_eq_some_iff.mp found
    obtain ⟨r, rfl, here⟩ := exists_rest_of_first? found
    obtain ⟨o, inside, rfl, value⟩ := meta?_sound form.sound r l [] here
    obtain ⟨a, y, rfl, ended, free⟩ := exists_last_angle p
    rw [List.append_nil, List.append_assoc] at found ⊢
    refine .intro ended ?_ free inside value
    cases front : first? (meta? read) a with
    | none => rfl
    | some x =>
      have front : first? (meta? read) a = some (x.1, x.2) := front
      obtain ⟨early, more⟩ := first?_of_ended stopped rfl ended front (y ++ (o ++ l))
      rw [found] at early
      have empty := congrArg Prod.snd (congrArg Prod.snd (Option.some.inj early))
      exact absurd (List.append_eq_nil_iff.mp empty.symm).1 more
  · intro unfinished
    cases unfinished with
    | @intro a y o l ended silent free inside _ =>
      have here : (meta? read (o ++ l)).isSome = true := by
        rw [form.meta?_eq inside plain]
        rfl
      obtain ⟨p, x, found, _⟩ := exists_first?_of_isSome here y
      obtain ⟨r, split, reached⟩ := exists_rest_of_first? found
      have same := form.meta?_only inside plain free r ⟨p, split.symm⟩ x reached
      rw [first?_behind_ended stopped ended (Option.map_eq_none_iff.mp silent), found, same]
      rfl

end Form

end Declaration
end HtmlReflow
