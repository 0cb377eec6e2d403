import HtmlReflow.Proofs.BareTags
import HtmlReflow.Proofs.Squeeze

namespace HtmlReflow

variable {s t u body : Text} {c : Char}

namespace Markup

variable {m : Markup}

theorem spell_squeeze (left : Option Text) (m : Markup) :
    squeeze m.spell = (m.rework (fun _ _ => squeeze) squeeze left).spell := by
  induction m generalizing left with
  | text t => rfl
  | tag t body m ih =>
    rw [spell, squeeze_append_cons (by decide), squeeze_append_cons (by decide), ih (some body)]
    rfl

/-- Nothing stands between two tags if nothing but blanks did. -/
def closeGap (left right : Option Text) (t : Text) : Text :=
  if left.isSome && right.isSome && t.all isBlank then [] else t

theorem closeGap_of_blank (blank : ∀ c ∈ t, isBlank c = true) (l r : Text) :
    closeGap (some l) (some r) t = [] := by
  have all : t.all isBlank = true := List.all_eq_true.mpr blank
  simp [closeGap, all]

theorem closeGap_of_filled (filled : ∃ c ∈ t, isBlank c = false) (left right : Option Text) :
    closeGap left right t = t := by
  have some : t.all isBlank = false := by simpa using filled
  simp [closeGap, some]

theorem closeGap_first (right : Option Text) (t : Text) : closeGap none right t = t := by
  simp [closeGap]

theorem closeGap_last (left : Option Text) (t : Text) : closeGap left none t = t := by
  simp [closeGap]

/-- The `>` of a tag in front. -/
def edge (left : Option Text) : Text := if left.isSome then ['>'] else []

end Markup

theorem Gap.startsWith : Gap.pattern.StartsWith '>' := by
  intro c s other
  show Gap.front? (c :: s) = none
  unfold Gap.front?
  split
  · rename_i same
    exact absurd (List.cons.inj same).1 other
  · rfl

/-- Where something else than blanks, or nothing at all, stands before the next `<`, there is no gap. -/
theorem Gap.front?_eq_none (free : '<' ∉ t) (filled : t = [] ∨ ∃ c ∈ t, isBlank c = false) :
    Gap.pattern.front? ('>' :: (t ++ '<' :: s)) = none := by
  cases found : Gap.pattern.front? ('>' :: (t ++ '<' :: s)) with
  | none => rfl
  | some x =>
    obtain ⟨g, rest⟩ := x
    have front : Gap.front? ('>' :: (t ++ '<' :: s)) = some (g, rest) := found
    have blank := Gap.blank_of_front? front
    have written : '>' :: (g.blanks ++ ['<']) ++ rest = '>' :: (t ++ '<' :: s) :=
      Gap.pattern.text_append found
    rw [List.cons_append, List.append_assoc] at written
    obtain ⟨same, _⟩ := append_cons_inj_of_notMem_left (plain_of_blank blank).1 free
      (List.cons.inj written).2
    rcases filled with empty | ⟨c, member, solid⟩
    · exact absurd (same.trans empty) (Gap.blanks_ne_nil front)
    · rw [blank c (same ▸ member)] at solid
      cases solid

theorem Gap.front?_eq_none_of_free (free : '<' ∉ t) : Gap.pattern.front? ('>' :: t) = none := by
  cases found : Gap.pattern.front? ('>' :: t) with
  | none => rfl
  | some x =>
    obtain ⟨g, rest⟩ := x
    have written : '>' :: (g.blanks ++ ['<']) ++ rest = '>' :: t := Gap.pattern.text_append found
    have member : '<' ∈ t := by
      rw [← (List.cons.inj written).2]
      simp
    exact absurd member free

namespace Markup

variable {m : Markup}

theorem replace_gap (plain : Plain t) (l r s : Text) :
    Gap.pattern.replace (fun _ => ['>', '<']) ('>' :: (t ++ '<' :: s)) =
      '>' :: (closeGap (some l) (some r) t ++ '<' :: Gap.pattern.replace (fun _ => ['>', '<']) s) := by
  have free : '>' ∉ t ++ ['<'] := by simp [plain.2]
  have inText := Gap.startsWith.replace_append (f := fun _ => ['>', '<']) free s
  rw [List.append_assoc, List.append_assoc] at inText
  by_cases blank : ∀ c ∈ t, isBlank c = true
  · rw [closeGap_of_blank blank]
    by_cases empty : t = []
    · have none := Gap.front?_eq_none (s := s) plain.1 (.inl empty)
      rw [Pattern.replace_cons_of_none _ _ none, empty]
      exact congrArg ('>' :: ·) (Pattern.replace_cons_of_none _ _ (Gap.startsWith '<' s (by decide)))
    · obtain ⟨g, found⟩ := Gap.front?_eq_some_of_blank (s := s) empty blank
      rw [Pattern.replace_of_some _ _ found]
      rfl
  · have filled : ∃ c ∈ t, isBlank c = false := by simpa using blank
    have none := Gap.front?_eq_none (s := s) plain.1 (.inr filled)
    rw [Pattern.replace_cons_of_none _ _ none, closeGap_of_filled filled]
    exact congrArg ('>' :: ·) inText

/-- Closing gaps works text by text: it looks at the brackets before and behind each. -/
theorem spell_closeGap (sound : m.Sound) (left : Option Text) :
    Gap.pattern.replace (fun _ => ['>', '<']) (edge left ++ m.spell) =
      edge left ++ (m.rework closeGap id left).spell := by
  have passes : ∀ {u s : Text}, '>' ∉ u → Gap.pattern.replace (fun _ => ['>', '<']) (u ++ s) =
      u ++ Gap.pattern.replace (fun _ => ['>', '<']) s :=
    fun free => Gap.startsWith.replace_append free _
  induction m generalizing left with
  | text t =>
    have kept := passes (s := []) sound.2
    rw [List.append_nil, Pattern.replace_nil, List.append_nil] at kept
    cases left with
    | none => simpa [edge, rework, spell, closeGap_last] using kept
    | some l =>
      show Gap.pattern.replace (fun _ => ['>', '<']) ('>' :: t) = '>' :: closeGap (some l) none t
      rw [Pattern.replace_cons_of_none _ _ (Gap.front?_eq_none_of_free sound.1), kept, closeGap_last]
  | tag t body m ih =>
    obtain ⟨plainText, plainBody, later⟩ := sound
    have behind := ih later (some body)
    have rest : Gap.pattern.replace (fun _ => ['>', '<']) (body ++ '>' :: m.spell) =
        body ++ '>' :: (m.rework closeGap id (some body)).spell := by
      rw [passes plainBody.2]
      exact congrArg (body ++ ·) behind
    cases left with
    | none =>
      have free : '>' ∉ t ++ ['<'] := by simp [plainText.2]
      have inText := passes (s := body ++ '>' :: m.spell) free
      rw [rest, List.append_assoc, List.append_assoc] at inText
      rw [rework, closeGap_first]
      exact inText
    | some l =>
      have inText := replace_gap plainText l body (body ++ '>' :: m.spell)
      rw [rest] at inText
      exact inText

end Markup

theorem Tag.front?_eq_none_of_ne (other : c ≠ '<') (s : Text) : Tag.front? (c :: s) = none := by
  cases found : Tag.front? (c :: s) with
  | none => rfl
  | some x =>
    obtain ⟨tag, rest⟩ := x
    exact absurd (List.cons.inj (Tag.front?_eq_some.mp found).1).1 other

theorem Tag.front?_empty (s : Text) : Tag.front? ('<' :: '>' :: s) = none := rfl

theorem bareTags_of_blank (blank : ∀ c ∈ u, isBlank c = true) : bareTags u = u := by
  induction u with
  | nil => exact bareTags_nil
  | cons c u ih =>
    rw [bareTags_cons_of_none (by rw [trimStart_of_blank blank]; rfl),
      ih fun d member => blank d (List.mem_cons_of_mem c member)]

theorem bareTags_append_cons (blank : ∀ d ∈ u, isBlank d = true) (solid : isBlank c = false)
    (none : Tag.front? (c :: s) = none) : bareTags (u ++ c :: s) = u ++ c :: bareTags s := by
  induction u with
  | nil => exact bareTags_cons_of_none (by rw [trimStart_cons_of_not_blank solid, none])
  | cons d u ih =>
    have absent : Tag.front? (trimStart (d :: (u ++ c :: s))) = Option.none := by
      rw [← List.cons_append, trimStart_append_cons blank solid, none]
    rw [List.cons_append, bareTags_cons_of_none absent,
      ih fun e member => blank e (List.mem_cons_of_mem d member)]
    rfl

theorem bareTags_of_free (free : '<' ∉ t) : bareTags t = t := by
  induction t using blank_induction with
  | blanks u blank => exact bareTags_of_blank blank
  | solid u c s blank solid ih =>
    simp only [List.mem_append, List.mem_cons, not_or] at free
    have none := Tag.front?_eq_none_of_ne (Ne.symm free.2.1) s
    rw [bareTags_append_cons blank solid none, ih free.2.2]

/-- Brackets with nothing between them are no tag, and keep the blanks beside them. -/
theorem bareTags_empty (free : '<' ∉ t) (s : Text) :
    bareTags (t ++ '<' :: '>' :: s) = t ++ '<' :: '>' :: bareTags s := by
  induction t using blank_induction with
  | blanks u blank =>
    have none := Tag.front?_eq_none_of_ne (by decide : '>' ≠ '<') s
    have start : trimStart ('>' :: s) = '>' :: s := trimStart_cons_of_not_blank (by decide) s
    rw [bareTags_append_cons blank (by decide) (Tag.front?_empty s),
      bareTags_cons_of_none (by rw [start, none])]
  | solid u c v blank solid ih =>
    simp only [List.mem_append, List.mem_cons, not_or] at free
    have none := Tag.front?_eq_none_of_ne (Ne.symm free.2.1) (v ++ '<' :: '>' :: s)
    rw [List.append_assoc, List.cons_append, bareTags_append_cons blank solid none, ih free.2.2,
      List.append_assoc, List.cons_append]

theorem bareTags_tag (free : '<' ∉ t) (nonempty : body ≠ []) (right : '>' ∉ body) (s : Text) :
    bareTags (t ++ '<' :: (body ++ '>' :: s)) =
      trimEnd t ++ '<' :: (body ++ '>' :: bareTags (trimStart s)) := by
  induction t using blank_induction with
  | blanks u blank =>
    have found : Tag.front? (trimStart (u ++ '<' :: (body ++ '>' :: s))) = some (⟨body⟩, s) := by
      rw [trimStart_append_cons blank (by decide)]
      exact Tag.front?_eq_some.mpr ⟨rfl, nonempty, right⟩
    rw [bareTags_of_tag found, trimEnd_of_blank blank]
    simp [Tag.text]
  | solid u c v blank solid ih =>
    simp only [List.mem_append, List.mem_cons, not_or] at free
    have none := Tag.front?_eq_none_of_ne (Ne.symm free.2.1) (v ++ '<' :: (body ++ '>' :: s))
    rw [List.append_assoc, List.cons_append, bareTags_append_cons blank solid none, ih free.2.2,
      trimEnd_append_cons solid, List.append_assoc, List.cons_append]

namespace Markup

variable {m : Markup}

/-- Whether a tag takes the blanks beside it, which empty brackets do not. -/
def hugs : Option Text → Bool
  | some (_ :: _) => true
  | _ => false

theorem hugs_some : hugs (some body) = true ↔ body ≠ [] := by
  cases body with
  | nil => simp [hugs]
  | cons c body => simp [hugs]

/-- A text without the blanks that the tags beside it take. -/
def strip (left right : Option Text) (t : Text) : Text :=
  let t := if hugs left then trimStart t else t
  if hugs right then trimEnd t else t

theorem trimStart_append_left (t s : Text) :
    trimStart (t ++ '<' :: s) = trimStart t ++ '<' :: s := by
  induction t using blank_induction with
  | blanks u blank => rw [trimStart_append_cons blank (by decide), trimStart_of_blank blank]; rfl
  | solid u c v blank solid _ =>
    rw [List.append_assoc, List.cons_append, trimStart_append_cons blank solid,
      trimStart_append_cons blank solid]
    rfl

theorem spell_strip (sound : m.Sound) (left : Option Text) :
    bareTags (if hugs left then trimStart m.spell else m.spell) = (m.rework strip id left).spell := by
  induction m generalizing left with
  | text t =>
    have same : strip left none t = if hugs left then trimStart t else t := rfl
    rw [rework, spell, spell, same]
    split
    · exact bareTags_of_free (sound.sublist (trimStart_sublist t)).1
    · exact bareTags_of_free sound.1
  | tag t body m ih =>
    obtain ⟨plain, plainBody, later⟩ := sound
    have front : (if hugs left then trimStart (spell (.tag t body m)) else spell (.tag t body m)) =
        (if hugs left then trimStart t else t) ++ '<' :: (body ++ '>' :: m.spell) := by
      rw [spell]
      split
      · exact trimStart_append_left t _
      · rfl
    have plain' : Plain (if hugs left then trimStart t else t) := by
      split
      · exact plain.sublist (trimStart_sublist t)
      · exact plain
    have behind := ih later (some body)
    rw [front]
    show _ = strip left (some body) t ++ '<' :: (body ++ '>' :: (m.rework strip id (some body)).spell)
    by_cases empty : body = []
    · subst empty
      rw [← behind]
      exact bareTags_empty plain'.1 m.spell
    · have hugging : hugs (some body) = true := hugs_some.mpr empty
      rw [if_pos hugging] at behind
      rw [bareTags_tag plain'.1 empty plainBody.2, behind, strip, if_pos hugging]

/-- What the three passes make of a text between the tags on its two sides. -/
def tighten (left right : Option Text) (t : Text) : Text :=
  strip left right (squeeze (closeGap left right t))

theorem hugs_map_squeeze (left : Option Text) : hugs (left.map squeeze) = hugs left := by
  cases left with
  | none => rfl
  | some body =>
    rw [Option.map_some, Bool.eq_iff_iff, hugs_some, hugs_some, ne_eq, squeeze_eq_nil_iff]

/-- The three passes over blanks work text by text and tag by tag. -/
theorem collapseBlanks_spell (sound : m.Sound) :
    collapseBlanks m.spell = (m.rework tighten squeeze none).spell := by
  have closed : (m.rework closeGap id none).Sound := by
    refine sound.rework (fun l r t plain => ?_) (fun _ plain => plain) none
    unfold closeGap
    split
    · exact plain_nil
    · exact plain
  have squeezed := closed.rework (f := fun _ _ => squeeze) (fun _ _ _ => plain_squeeze)
    (fun _ => plain_squeeze) none
  have first : Gap.pattern.replace (fun _ => ['>', '<']) m.spell = (m.rework closeGap id none).spell :=
    spell_closeGap sound none
  have second := spell_squeeze none (m.rework closeGap id none)
  have third := spell_strip squeezed none
  rw [collapseBlanks, first]
  show bareTags (squeeze _) = _
  rw [second]
  refine third.trans ?_
  have inner := rework_rework closeGap (fun _ _ => squeeze) id squeeze none m
  rw [Option.map_none] at inner
  rw [inner]
  have outer := rework_rework (fun l r t => squeeze (closeGap l r t)) strip squeeze id none m
  rw [Option.map_none] at outer
  simp only [strip, hugs_map_squeeze] at outer
  exact congrArg spell outer

end Markup
end HtmlReflow
