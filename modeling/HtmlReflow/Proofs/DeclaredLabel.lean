import HtmlReflow.Encoding.Declaration
import HtmlReflow.Proofs.BlockGrammar

namespace HtmlReflow

namespace Declaration

variable {β : Type} {stops : Char → Bool} {read : Text → Option β} {b : β} {s u v w x y z label : Text}
  {c : Char}

theorem furthest?_append (free : ∀ d ∈ u, stops d = false) (found : furthest? stops read s = some b) :
    furthest? stops read (u ++ s) = some b := by
  induction u with
  | nil => exact found
  | cons d u ih =>
    have pass := free d List.mem_cons_self
    have later := ih fun e member => free e (List.mem_cons_of_mem d member)
    rw [List.cons_append, furthest?, if_neg (by simp [pass]), later]
    rfl

theorem furthest?_cons_of_none (pass : stops c = false) (none : furthest? stops read s = none) :
    furthest? stops read (c :: s) = read (c :: s) := by
  rw [furthest?, if_neg (by simp [pass]), none]
  rfl

theorem furthest?_eq_none (free : ∀ d ∈ u, stops d = false) (stop : stops c = true)
    (fails : ∀ a r, u = a ++ r → read (r ++ c :: v) = none) :
    furthest? stops read (u ++ c :: v) = none := by
  induction u with
  | nil =>
    rw [List.nil_append, furthest?, if_pos stop]
    exact fails [] [] rfl
  | cons d u ih =>
    have later := ih (fun e member => free e (List.mem_cons_of_mem d member))
      fun a r cut => fails (d :: a) r (by rw [cut, List.cons_append])
    rw [List.cons_append, furthest?_cons_of_none (free d List.mem_cons_self) later]
    exact fails [] (d :: u) rfl

theorem closesTag_eq_false (free : '>' ∉ u) : ∀ d ∈ u, closesTag d = false := by
  intro d member
  rw [closesTag, beq_eq_false_iff_ne]
  rintro rfl
  exact free member

/-- The name of the character set is not read where it does not stand, nor across a foreign character. -/
theorem charset?_eq_none (absent : ¬ charsetName <:+: u.map foldCase) (foreign : foldCase c ∉ charsetName) :
    charset? (u ++ c :: v) = none := by
  cases named : word? charsetName (u ++ c :: v) with
  | none => rw [charset?, assigned?, named]; rfl
  | some x =>
    obtain ⟨name, rest⟩ := x
    obtain ⟨same, folded⟩ := word?_eq_some.mp named
    have free : c ∉ name := fun member => foreign (folded ▸ List.mem_map_of_mem member)
    obtain ⟨behind, rfl⟩ := prefix_of_append_eq_append_cons free same.symm
    refine absurd ?_ absent
    rw [List.map_append, folded]
    exact (List.prefix_append _ _).isInfix

theorem charset?_fails (absent : ¬ charsetName <:+: u.map foldCase) (foreign : foldCase c ∉ charsetName) :
    ∀ a r, u = a ++ r → charset? (r ++ c :: v) = none := by
  rintro a r rfl
  refine charset?_eq_none (fun inside => absent ?_) foreign
  rw [List.map_append]
  exact inside.trans (List.suffix_append _ _).isInfix

theorem infix_append_left_iff {a : Text} (foreign : ∀ d ∈ a, d ∉ u) : u <:+: a ++ s ↔ u <:+: s := by
  induction a with
  | nil => rfl
  | cons d a ih =>
    rw [List.cons_append, infix_cons_of_notMem (foreign d List.mem_cons_self),
      ih fun e member => foreign e (List.mem_cons_of_mem d member)]

theorem infix_append_right_iff {a : Text} (foreign : ∀ d ∈ a, d ∉ u) : u <:+: s ++ a ↔ u <:+: s := by
  rw [← List.reverse_infix, List.reverse_append, infix_append_left_iff (by simpa using foreign),
    List.reverse_infix]

/-- A character that folds to none of the name of the character set. -/
def OffName (c : Char) : Prop := foldCase c ∉ charsetName

theorem offName_of_blank (blank : isBlank c = true) : OffName c := by
  have solid : charsetName.any isBlank = false := by decide
  intro member
  rw [foldCase_of_blank blank] at member
  exact List.any_eq_false.mp solid c member blank

theorem offName_of_quote (quote : isQuote c = true) : OffName c := by
  rw [isQuote, Bool.or_eq_true, beq_iff_eq, beq_iff_eq] at quote
  rcases quote with rfl | rfl <;> simp [OffName] <;> decide

theorem solid_of_quote (quote : isQuote c = true) : isBlank c = false := by
  rw [isQuote, Bool.or_eq_true, beq_iff_eq, beq_iff_eq] at quote
  rcases quote with rfl | rfl <;> decide

theorem value_cases (value : isValueChar c = true) :
    isQuote c = false ∧ isBlank c = false ∧ closesTag c = false := by
  simpa [isValueChar, and_assoc] using value

/-- A label that is read as it stands: it has no quotes, blanks or angle brackets, and does not name the
    character set itself. -/
structure Readable (label : Text) : Prop where
  nonempty : label ≠ []
  value : ∀ c ∈ label, isValueChar c = true
  absent : ¬ charsetName <:+: label.map foldCase

/-- A meta tag that declares a label, by the parts that its reading tells apart. -/
structure Declared (label : Text) where
  first : Char
  gap : Text
  before : Text
  behind : Text
  opened : Text
  closed : Text
  angle : '>' ∉ first :: gap
  blank : ∀ c ∈ before ++ behind, isBlank c = true
  quotes : ∀ c ∈ opened ++ closed, isQuote c = true
  single : opened.length ≤ 1

namespace Declared

variable (d : Declared label)

/-- The part behind the name of the character set, up to the end of the tag. -/
def assignment : Text := d.before ++ '=' :: (d.behind ++ (d.opened ++ (label ++ d.closed)))

/-- The tag from behind its `<` on, and what stands behind it. -/
def inside (y : Text) : Text :=
  metaName ++ d.first :: (d.gap ++ (charsetName ++ (d.assignment ++ '>' :: y)))

theorem quote_closed : ∀ c ∈ d.closed, isQuote c = true :=
  fun c member => d.quotes c (List.mem_append_right _ member)

theorem quote_opened : ∀ c ∈ d.opened, isQuote c = true :=
  fun c member => d.quotes c (List.mem_append_left _ member)

theorem skipQuote_opened (readable : Readable label) (y : Text) :
    skipQuote (d.opened ++ (label ++ y)) = label ++ y := by
  have single := d.single
  rcases opened : d.opened with _ | ⟨q, more⟩
  · obtain ⟨c, rest, rfl⟩ := List.exists_cons_of_ne_nil readable.nonempty
    have notQuote := (value_cases (readable.value c List.mem_cons_self)).1
    rw [List.nil_append, List.cons_append, skipQuote, if_neg (by simp [notQuote])]
  · rw [opened, List.length_cons] at single
    have none : more = [] := List.eq_nil_of_length_eq_zero (by omega)
    rw [none, List.singleton_append, skipQuote, if_pos (d.quote_opened q (opened ▸ List.mem_cons_self))]

theorem dropWhile_opened (readable : Readable label) (y : Text) :
    (d.opened ++ (label ++ y)).dropWhile isBlank = d.opened ++ (label ++ y) := by
  rcases opened : d.opened with _ | ⟨q, more⟩
  · obtain ⟨c, rest, rfl⟩ := List.exists_cons_of_ne_nil readable.nonempty
    have solid := (value_cases (readable.value c List.mem_cons_self)).2.1
    exact List.dropWhile_cons_of_neg (by simp [solid])
  · have solid := solid_of_quote (d.quote_opened q (opened ▸ List.mem_cons_self))
    exact List.dropWhile_cons_of_neg (by simp [solid])

theorem value?_label (readable : Readable label) (y : Text) :
    value? (label ++ (d.closed ++ '>' :: y)) = some (label, d.closed ++ '>' :: y) := by
  have ends : ∃ c rest, d.closed ++ '>' :: y = c :: rest ∧ isValueChar c = false := by
    cases closed : d.closed with
    | nil => exact ⟨'>', y, rfl, by decide⟩
    | cons q more =>
      refine ⟨q, more ++ '>' :: y, rfl, ?_⟩
      rw [isValueChar, d.quote_closed q (closed ▸ List.mem_cons_self)]
      rfl
  obtain ⟨c, rest, same, stop⟩ := ends
  have value : (label ++ c :: rest).takeWhile isValueChar = label := by
    rw [List.takeWhile_append_of_pos readable.value, List.takeWhile_cons_of_neg (by simp [stop]),
      List.append_nil]
  have behind : (label ++ c :: rest).dropWhile isValueChar = c :: rest := by
    rw [List.dropWhile_append_of_pos readable.value, List.dropWhile_cons_of_neg (by simp [stop])]
  rw [same, value?, value, behind]
  split
  · rename_i empty
    exact absurd rfl readable.nonempty
  · rfl

theorem charset?_assignment (readable : Readable label) (y : Text) :
    charset? (charsetName ++ (d.assignment ++ '>' :: y)) = some (label, d.closed ++ '>' :: y) := by
  have named : word? charsetName (charsetName ++ (d.assignment ++ '>' :: y)) =
      some (charsetName, d.assignment ++ '>' :: y) := word?_eq_some.mpr ⟨rfl, by decide⟩
  have split : d.assignment ++ '>' :: y =
      d.before ++ '=' :: (d.behind ++ (d.opened ++ (label ++ (d.closed ++ '>' :: y)))) := by
    simp [assignment]
  have equals : (d.assignment ++ '>' :: y).dropWhile isBlank =
      '=' :: (d.behind ++ (d.opened ++ (label ++ (d.closed ++ '>' :: y)))) := by
    rw [split, List.dropWhile_append_of_pos fun c member => d.blank c (List.mem_append_left _ member),
      List.dropWhile_cons_of_neg (by decide)]
  have value : (d.behind ++ (d.opened ++ (label ++ (d.closed ++ '>' :: y)))).dropWhile isBlank =
      d.opened ++ (label ++ (d.closed ++ '>' :: y)) := by
    rw [List.dropWhile_append_of_pos fun c member => d.blank c (List.mem_append_right _ member),
      d.dropWhile_opened readable]
  rw [charset?, assigned?, named]
  simp only [equals, value, Option.bind_some]
  rw [d.skipQuote_opened readable, d.value?_label readable]

theorem absent_assignment (readable : Readable label) :
    ¬ charsetName <:+: (['h', 'a', 'r', 's', 'e', 't'] ++ d.assignment).map foldCase := by
  have split : ['h', 'a', 'r', 's', 'e', 't'] ++ d.assignment =
      (['h', 'a', 'r', 's', 'e', 't'] ++ d.before) ++ '=' :: ((d.behind ++ d.opened) ++ (label ++ d.closed)) := by
    simp [assignment]
  have foreign : ∀ u : Text, (∀ c ∈ u, OffName c) → ∀ c ∈ u.map foldCase, c ∉ charsetName := by
    intro u foreign c member
    obtain ⟨e, there, rfl⟩ := List.mem_map.mp member
    exact foreign e there
  have blank : ∀ c ∈ d.before ++ d.behind, OffName c := fun c member => offName_of_blank (d.blank c member)
  have quote : ∀ c ∈ d.opened ++ d.closed, OffName c := fun c member => offName_of_quote (d.quotes c member)
  rw [split, List.map_append, List.map_cons, infix_append_cons_iff (by decide), not_or]
  constructor
  · rw [List.map_append,
      infix_append_right_iff (foreign _ fun c member => blank c (List.mem_append_left _ member))]
    decide
  · have front : ∀ c ∈ d.behind ++ d.opened, OffName c := by
      intro c member
      rcases List.mem_append.mp member with member | member
      · exact blank c (List.mem_append_right _ member)
      · exact quote c (List.mem_append_left _ member)
    rw [List.map_append, infix_append_left_iff (foreign _ front), List.map_append,
      infix_append_right_iff (foreign _ fun c member => quote c (List.mem_append_right _ member))]
    exact readable.absent

theorem angle_free_assignment (readable : Readable label) : '>' ∉ d.assignment := by
  have value : '>' ∉ label := fun member => absurd (readable.value '>' member) (by decide)
  have blank : '>' ∉ d.before ++ d.behind := fun member => absurd (d.blank '>' member) (by decide)
  have quote : '>' ∉ d.opened ++ d.closed := fun member => absurd (d.quotes '>' member) (by decide)
  simp only [List.mem_append, not_or] at blank quote
  simp [assignment, value, blank, quote]

theorem furthest?_charset (readable : Readable label) (y : Text) :
    furthest? closesTag charset? (charsetName ++ (d.assignment ++ '>' :: y)) =
      some (label, d.closed ++ '>' :: y) := by
  have split : charsetName ++ (d.assignment ++ '>' :: y) =
      'c' :: ((['h', 'a', 'r', 's', 'e', 't'] ++ d.assignment) ++ '>' :: y) := by
    simp [charsetName]
  have free : ∀ e ∈ ['h', 'a', 'r', 's', 'e', 't'] ++ d.assignment, closesTag e = false := by
    apply closesTag_eq_false
    simp [d.angle_free_assignment readable]
  have none := furthest?_eq_none (c := '>') (v := y) free (by decide)
    (charset?_fails (d.absent_assignment readable) (by decide))
  rw [split, furthest?_cons_of_none (by decide) none, ← split, d.charset?_assignment readable]

theorem furthest?_inside (readable : Readable label) (y : Text) :
    furthest? closesTag charset? (d.inside y) = some (label, d.closed ++ '>' :: y) := by
  have free : ∀ e ∈ metaName ++ d.first :: d.gap, closesTag e = false := by
    apply closesTag_eq_false
    rw [List.mem_append, not_or]
    exact ⟨by decide, d.angle⟩
  have found := furthest?_append free (d.furthest?_charset readable y)
  rwa [List.append_assoc] at found

theorem meta?_inside (readable : Readable label) (y : Text) :
    meta? charset? ('<' :: d.inside y) = some (label, d.closed ++ '>' :: y) := by
  have named : word? metaName (d.inside y) =
      some (metaName, d.first :: (d.gap ++ (charsetName ++ (d.assignment ++ '>' :: y)))) :=
    word?_eq_some.mpr ⟨rfl, by decide⟩
  have free := closesTag_eq_false d.angle
  have found := furthest?_append (fun e member => free e (List.mem_cons_of_mem _ member))
    (d.furthest?_charset readable y)
  rw [meta?, named, Option.bind_some, furthestBehind?, if_neg (by simp [free d.first List.mem_cons_self]),
    found]

end Declared

/-- From a tag that opens further in front the reading ends in front of the declaration, or reaches it. -/
theorem meta?_in_front (absent : ¬ charsetName <:+: w.map foldCase) (nonempty : w ≠ [])
    {found : Text × Text} (reach : furthest? closesTag charset? z = some found) :
    meta? charset? (w ++ '<' :: z) = none ∨ meta? charset? (w ++ '<' :: z) = some found := by
  obtain ⟨c, w, rfl⟩ := List.exists_cons_of_ne_nil nonempty
  rw [List.cons_append]
  by_cases left : c = '<'
  · subst left
    cases named : word? metaName (w ++ '<' :: z) with
    | none => exact .inl (by rw [meta?, named, Option.bind_none])
    | some x =>
      obtain ⟨name, rest⟩ := x
      obtain ⟨same, folded⟩ := word?_eq_some.mp named
      have free : '<' ∉ name := fun member =>
        absurd (folded ▸ List.mem_map_of_mem member : foldCase '<' ∈ metaName) (by decide)
      obtain ⟨w, rfl⟩ := prefix_of_append_eq_append_cons free same.symm
      rw [List.append_assoc] at same
      rw [meta?, named, Option.bind_some, ← List.append_cancel_left same]
      by_cases angle : '>' ∈ w
      · obtain ⟨a, b, rfl, free⟩ := List.eq_append_cons_of_mem angle
        left
        cases a with
        | nil => rfl
        | cons d a =>
          have pass := closesTag_eq_false free
          have unnamed : ¬ charsetName <:+: a.map foldCase := by
            intro inside
            refine absent (inside.trans (List.IsInfix.map foldCase ⟨'<' :: (name ++ [d]), '>' :: b, ?_⟩))
            simp
          rw [List.append_assoc, List.cons_append, furthestBehind?,
            if_neg (by simp [pass d List.mem_cons_self])]
          exact furthest?_eq_none (fun e member => pass e (List.mem_cons_of_mem d member)) rfl
            (charset?_fails unnamed (by decide))
      · right
        cases w with
        | nil => exact reach
        | cons d w =>
          have pass := closesTag_eq_false angle
          have through : ∀ e ∈ w ++ ['<'], closesTag e = false := by
            intro e member
            rcases List.mem_append.mp member with member | member
            · exact pass e (List.mem_cons_of_mem d member)
            · rw [List.mem_singleton.mp member]
              rfl
          rw [List.cons_append, furthestBehind?, if_neg (by simp [pass d List.mem_cons_self]),
            List.append_cons]
          exact furthest?_append through reach
  · refine .inl ?_
    unfold meta?
    split
    · rename_i same
      exact absurd (List.cons.inj same).1 left
    · rfl

theorem first?_of_agreement {read : Text → Option β} (found : read z = some b)
    (agree : ∀ a w, x = a ++ w → w ≠ [] → read (w ++ z) = none ∨ read (w ++ z) = some b) :
    ∃ passed, first? read (x ++ z) = some (passed, b) := by
  induction x with
  | nil => exact ⟨[], first?_of_some found⟩
  | cons c x ih =>
    rcases agree [] (c :: x) rfl (List.cons_ne_nil c x) with none | here
    · obtain ⟨passed, later⟩ := ih fun a w cut => agree (c :: a) w (by rw [cut, List.cons_append])
      have split : first? read (c :: (x ++ z)) = _ := first?_cons_of_none none
      rw [later] at split
      exact ⟨c :: passed, split⟩
    · exact ⟨[], first?_of_some here⟩

/-- A text in which nothing names a character set before the declaration declares this one first. -/
theorem Declared.labels_eq (d : Declared label) (readable : Readable label)
    (quiet : ¬ charsetName <:+: x.map foldCase) (y : Text) :
    ∃ others, labels (x ++ '<' :: d.inside y) = label :: others := by
  have agree : ∀ a w, x = a ++ w → w ≠ [] → meta? charset? (w ++ '<' :: d.inside y) = none ∨
      meta? charset? (w ++ '<' :: d.inside y) = some (label, d.closed ++ '>' :: y) := by
    rintro a w rfl nonempty
    refine meta?_in_front (fun inside => quiet ?_) nonempty (d.furthest?_inside readable y)
    rw [List.map_append]
    exact inside.trans (List.suffix_append _ _).isInfix
  obtain ⟨passed, found⟩ := first?_of_agreement (d.meta?_inside readable y) agree
  rw [labels, inCharset?, found]
  exact ⟨_, rfl⟩

end Declaration
end HtmlReflow
