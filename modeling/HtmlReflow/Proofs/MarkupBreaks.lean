import HtmlReflow.Proofs.Feeds
import HtmlReflow.Proofs.MarkupSpacing
import HtmlReflow.Proofs.StructuralGrammar

namespace HtmlReflow

variable {s t u body : Text}

@[simp] theorem breakAfterCloses_nil : breakAfterCloses [] = [] := Pattern.replace_nil _ _

@[simp] theorem breakBeforeOpens_nil : breakBeforeOpens [] = [] := Pattern.replace_nil _ _

theorem squeeze_capFeeds_of_blank (blank : ∀ c ∈ u, isBlank c = true) :
    squeeze (capFeeds u) = squeeze u := by
  have blank' : ∀ c ∈ capFeeds u, isBlank c = true := by
    rw [← List.all_eq_true, all_blank_capFeeds, List.all_eq_true]
    exact blank
  have bound := length_capFeeds u
  rw [squeeze_of_blank blank, squeeze_of_blank blank']
  by_cases long : 2 ≤ u.length
  · rw [if_pos long, if_pos (by omega)]
  · have short : ¬ ['\n', '\n', '\n'] <:+: u := by
      intro inside
      have size := inside.length_le
      simp only [List.length_cons, List.length_nil] at size
      omega
    rw [capFeeds_eq_self short]

/-- Where runs of blanks become one space, it does not matter whether line feeds were capped before. -/
theorem squeeze_capFeeds (s : Text) : squeeze (capFeeds s) = squeeze s := by
  induction s using blank_induction with
  | blanks u blank => exact squeeze_capFeeds_of_blank blank
  | solid u c s blank solid ih =>
    have other : c ≠ '\n' := by
      intro same
      rw [same] at solid
      cases solid
    rw [capFeeds_append_cons other, squeeze_append_cons solid, squeeze_append_cons solid, ih,
      squeeze_capFeeds_of_blank blank]

theorem plain_capFeeds (plain : Plain t) : Plain (capFeeds t) := plain.sublist (capFeeds_sublist t)

namespace Markup

variable {m : Markup} {left right : Option Text}

/-- Whether a tag is the closing tag of a structural element. -/
def closesStructure : Option Text → Bool
  | some ('/' :: name) => decide (name.map foldCase ∈ structuralNames)
  | _ => false

/-- Whether a tag is an opening tag of a structural element. -/
def opensStructure : Option Text → Bool
  | some body => (StructuralOpen.pattern.front? ('<' :: (body ++ ['>']))).isSome
  | none => false

theorem exists_of_closesStructure (closes : closesStructure left = true) :
    ∃ name, left = some ('/' :: name) ∧ name.map foldCase ∈ structuralNames := by
  unfold closesStructure at closes
  split at closes
  · rename_i name
    exact ⟨name, rfl, of_decide_eq_true closes⟩
  · cases closes

theorem exists_of_opensStructure (opens : opensStructure right = true) :
    ∃ body tag rest, right = some body ∧
      StructuralOpen.pattern.front? ('<' :: (body ++ ['>'])) = some (tag, rest) := by
  unfold opensStructure at opens
  split at opens
  · rename_i body
    obtain ⟨⟨tag, rest⟩, found⟩ := Option.isSome_iff_exists.mp opens
    exact ⟨body, tag, rest, rfl, found⟩
  · cases opens

/-- A tag is read as the closing tag of a structural element or not, whatever stands behind it. -/
theorem breakAfterCloses_tag (plain : Plain body) (s : Text) :
    breakAfterCloses ('<' :: (body ++ '>' :: s)) =
      '<' :: (body ++ '>' ::
        ((if closesStructure (some body) then ['\n'] else []) ++ breakAfterCloses s)) := by
  cases found : StructuralClose.pattern.front? ('<' :: (body ++ '>' :: s)) with
  | none =>
    have other : closesStructure (some body) = false := by
      rw [Bool.eq_false_iff]
      intro closes
      obtain ⟨name, same, named⟩ := exists_of_closesStructure closes
      cases same
      have front : StructuralClose.pattern.front? ('<' :: ('/' :: name ++ '>' :: s)) = some (⟨name⟩, s) :=
        StructuralClose.front?_eq_some.mpr ⟨(StructuralClose.text_append_eq _ _).symm, named⟩
      rw [front] at found
      cases found
    have free : '<' ∉ body ++ ['>'] := by simp [plain.1]
    have behind := StructuralClose.startsWith.replace_append
      (f := fun t => t.text ++ ['\n']) free s
    rw [List.append_assoc, List.append_assoc] at behind
    rw [breakAfterCloses, Pattern.replace_cons_of_none _ _ found, other]
    exact congrArg ('<' :: ·) behind
  | some x =>
    obtain ⟨tag, rest⟩ := x
    obtain ⟨same, named⟩ := StructuralClose.front?_eq_some.mp found
    rw [StructuralClose.text_append_eq] at same
    have right : '>' ∉ '/' :: tag.name := by
      simp [(solid_of_structuralName named).right_free]
    obtain ⟨rfl, rfl⟩ := append_cons_inj_of_notMem_left plain.2 right (List.cons.inj same).2
    have closes : closesStructure (some ('/' :: tag.name)) = true := decide_eq_true named
    have cut : breakAfterCloses ('<' :: ('/' :: tag.name ++ '>' :: s)) =
        tag.text ++ ['\n'] ++ breakAfterCloses s := Pattern.replace_of_some _ _ found
    rw [cut, if_pos closes]
    simp [StructuralClose.text]

theorem front?_structuralOpen (plain : Plain body) {tag : StructuralOpen} {rest : Text}
    (found : StructuralOpen.pattern.front? ('<' :: (body ++ '>' :: s)) = some (tag, rest)) :
    ∃ rest', StructuralOpen.pattern.front? ('<' :: (body ++ ['>'])) = some (tag, rest') := by
  obtain ⟨same, proper⟩ := StructuralOpen.front?_eq_some.mp found
  rw [StructuralOpen.text_append_eq] at same
  have inner : tag.name ++ tag.delimiter :: rest = body ++ '>' :: s := (List.cons.inj same).2.symm
  -- The name ends in front of the `>`, so the character behind it is in the tag or is that `>`.
  obtain ⟨k, rfl⟩ := prefix_of_append_eq_append_cons proper.solid.right_free inner
  rw [List.append_assoc] at inner
  have behind := List.append_cancel_left inner
  refine ⟨(k ++ ['>']).tail, StructuralOpen.front?_eq_some.mpr ⟨?_, proper⟩⟩
  rw [StructuralOpen.text_append_eq, List.append_assoc]
  cases k with
  | nil => rw [(List.cons.inj behind).1]; rfl
  | cons d k => rw [(List.cons.inj behind).1]; rfl

theorem breakBeforeOpens_tag (plain : Plain body) (s : Text) :
    breakBeforeOpens ('<' :: (body ++ '>' :: s)) =
      (if opensStructure (some body) then ['\n'] else []) ++
        '<' :: (body ++ '>' :: breakBeforeOpens s) := by
  by_cases opens : opensStructure (some body) = true
  · obtain ⟨body', tag, rest, same, found⟩ := exists_of_opensStructure opens
    cases same
    obtain ⟨written, proper⟩ := StructuralOpen.front?_eq_some.mp found
    have whole : '<' :: (body ++ '>' :: s) = tag.text ++ (rest ++ s) := by
      rw [← List.append_assoc, ← written]
      simp
    have found' := StructuralOpen.front?_eq_some.mpr ⟨whole, proper⟩
    have free : '<' ∉ rest := by
      rw [StructuralOpen.text_append_eq] at written
      have inside : '<' ∉ tag.name ++ tag.delimiter :: rest := by
        rw [← (List.cons.inj written).2]
        simp [plain.1]
      intro member
      exact inside (by simp [member])
    have behind : breakBeforeOpens (rest ++ s) = rest ++ breakBeforeOpens s :=
      StructuralOpen.startsWith.replace_append free s
    rw [breakBeforeOpens, Pattern.replace_of_some _ _ found', if_pos opens]
    show '\n' :: tag.text ++ breakBeforeOpens (rest ++ s) = _
    rw [behind, List.cons_append, ← List.append_assoc, ← written]
    simp
  · have none : StructuralOpen.pattern.front? ('<' :: (body ++ '>' :: s)) = none := by
      cases found : StructuralOpen.pattern.front? ('<' :: (body ++ '>' :: s)) with
      | none => rfl
      | some x =>
        obtain ⟨tag, rest⟩ := x
        obtain ⟨rest', front⟩ := front?_structuralOpen plain found
        exact absurd (by rw [opensStructure, front]; rfl) opens
    have free : '<' ∉ body ++ ['>'] := by simp [plain.1]
    have behind := StructuralOpen.startsWith.replace_append (f := fun t => '\n' :: t.text) free s
    rw [List.append_assoc, List.append_assoc] at behind
    rw [breakBeforeOpens, Pattern.replace_cons_of_none _ _ none, if_neg opens]
    exact congrArg ('<' :: ·) behind

def afterClose (left _right : Option Text) (t : Text) : Text :=
  (if closesStructure left then ['\n'] else []) ++ t

def beforeOpen (_left right : Option Text) (t : Text) : Text :=
  t ++ if opensStructure right then ['\n'] else []

theorem spell_afterClose (sound : m.Sound) (left : Option Text) :
    (if closesStructure left then ['\n'] else []) ++ breakAfterCloses m.spell =
      (m.rework afterClose id left).spell := by
  have inText : ∀ {t : Text}, Plain t → ∀ s, breakAfterCloses (t ++ s) = t ++ breakAfterCloses s :=
    fun plain s => StructuralClose.startsWith.replace_append plain.1 s
  induction m generalizing left with
  | text t =>
    have kept := inText sound []
    rw [List.append_nil, breakAfterCloses_nil, List.append_nil] at kept
    rw [rework, spell, spell, afterClose, kept]
  | tag t body m ih =>
    obtain ⟨plain, plainBody, later⟩ := sound
    rw [spell, inText plain, breakAfterCloses_tag plainBody, ih later (some body), ← List.append_assoc]
    rfl

theorem spell_beforeOpen (sound : m.Sound) (left : Option Text) :
    breakBeforeOpens m.spell = (m.rework beforeOpen id left).spell := by
  have inText : ∀ {t : Text}, Plain t → ∀ s, breakBeforeOpens (t ++ s) = t ++ breakBeforeOpens s :=
    fun plain s => StructuralOpen.startsWith.replace_append plain.1 s
  induction m generalizing left with
  | text t =>
    have kept := inText sound []
    rw [List.append_nil, breakBeforeOpens_nil, List.append_nil] at kept
    rw [rework, spell, spell, beforeOpen, kept]
    exact (List.append_nil t).symm
  | tag t body m ih =>
    obtain ⟨plain, plainBody, later⟩ := sound
    rw [spell, inText plain, breakBeforeOpens_tag plainBody, ih later (some body), ← List.append_assoc]
    rfl

theorem spell_capFeeds (left : Option Text) (m : Markup) :
    capFeeds m.spell = (m.rework (fun _ _ => capFeeds) capFeeds left).spell := by
  induction m generalizing left with
  | text t => rfl
  | tag t body m ih =>
    rw [spell, capFeeds_append_cons (by decide), capFeeds_append_cons (by decide), ih (some body)]
    rfl

theorem plain_break (b : Bool) : Plain (if b then ['\n'] else []) := by
  split
  · exact ⟨by decide, by decide⟩
  · exact plain_nil

/-- What breaking lines around structural tags makes of a text between two tags. -/
def breakBeside (left right : Option Text) (t : Text) : Text :=
  capFeeds (beforeOpen left right (afterClose left right t))

/-- The text of a markup with lines broken around its structural tags. -/
def breakStructure (left : Option Text) (m : Markup) : Markup := m.rework breakBeside capFeeds left

theorem Sound.breakStructure (sound : m.Sound) (left : Option Text) : (m.breakStructure left).Sound := by
  refine sound.rework (fun l r t plain => ?_) (fun _ => plain_capFeeds) left
  exact plain_capFeeds (plain_append.mpr ⟨plain_append.mpr ⟨plain_break _, plain⟩, plain_break _⟩)

/-- Where raw blocks are left alone, expanding works text by text and tag by tag before it trims. -/
theorem expand_spell {o : Options} (sound : m.Sound) (raw : o.formatRawBlocks = false) :
    expand o m.spell = trim (m.breakStructure none).spell := by
  have closes : breakAfterCloses m.spell = (m.rework afterClose id none).spell :=
    spell_afterClose sound none
  have sound' : (m.rework afterClose id none).Sound :=
    sound.rework (fun _ _ _ plain => plain_append.mpr ⟨plain_break _, plain⟩) (fun _ plain => plain) none
  have opens := spell_beforeOpen sound' none
  rw [expand, raw, if_neg Bool.false_ne_true, closes, opens, spell_capFeeds none]
  have inner := rework_rework afterClose beforeOpen id id none m
  rw [Option.map_none] at inner
  rw [inner]
  have outer := rework_rework (fun l r t => beforeOpen l r (afterClose l r t)) (fun _ _ => capFeeds) id
    capFeeds none m
  rw [Option.map_none] at outer
  simp only [Option.map_id_fun, id_eq] at outer ⊢
  exact congrArg (fun m => trim (spell m)) outer

theorem hugs_of_closesStructure (closes : closesStructure left = true) : hugs left = true := by
  obtain ⟨name, rfl, _⟩ := exists_of_closesStructure closes
  rfl

theorem hugs_of_opensStructure (opens : opensStructure right = true) : hugs right = true := by
  obtain ⟨body, tag, rest, rfl, found⟩ := exists_of_opensStructure opens
  apply hugs_some.mpr
  intro empty
  -- Empty brackets have no room for a name and the character behind it.
  obtain ⟨written, proper⟩ := StructuralOpen.front?_eq_some.mp found
  rw [empty, StructuralOpen.text_append_eq] at written
  have behind : ['>'] = tag.name ++ tag.delimiter :: rest := (List.cons.inj written).2
  rcases List.cons_eq_append_iff.mp behind with ⟨name, _⟩ | ⟨k, name, _⟩
  · have named := proper.named
    rw [name] at named
    revert named
    decide
  · exact proper.solid.right_free (by simp [name])

theorem hugs_map_capFeeds (left : Option Text) : hugs (left.map capFeeds) = hugs left := by
  cases left with
  | none => rfl
  | some body =>
    rw [Option.map_some, Bool.eq_iff_iff, hugs_some, hugs_some, ne_eq, capFeeds_eq_nil_iff]

theorem strip_squeeze (left right : Option Text) (t : Text) :
    strip left right (squeeze t) = squeeze (strip left right t) := by
  simp only [strip]
  split
  · split
    · rw [trimStart_squeeze, trimEnd_squeeze]
    · exact trimEnd_squeeze t
  · split
    · exact trimStart_squeeze t
    · rfl

theorem strip_afterClose (left right : Option Text) (t : Text) :
    strip left right (afterClose left right t) = strip left right t := by
  unfold afterClose
  split
  · rename_i closes
    have hugging := hugs_of_closesStructure closes
    simp only [strip, hugging, if_true]
    rw [List.singleton_append, trimStart_cons_of_blank (by decide)]
  · rfl

theorem strip_beforeOpen (left right : Option Text) (t : Text) :
    strip left right (beforeOpen left right t) = strip left right t := by
  unfold beforeOpen
  split
  · rename_i opens
    have hugging := hugs_of_opensStructure opens
    have cut : trimEnd (t ++ ['\n']) = trimEnd t := trimEnd_append_of_blank t (by decide)
    simp only [strip, hugging, if_true]
    split
    · rw [← trimStart_trimEnd, cut, trimStart_trimEnd]
    · exact cut
  · rw [List.append_nil]

theorem all_blank_breakBeside (left right : Option Text) (t : Text) :
    (breakBeside left right t).all isBlank = t.all isBlank := by
  have feed : ∀ b : Bool, (if b then ['\n'] else []).all isBlank = true := by decide
  rw [breakBeside, all_blank_capFeeds, beforeOpen, afterClose, List.all_append, List.all_append, feed,
    feed, Bool.true_and, Bool.and_true]

/-- The blanks that come with a broken line stand beside a tag and go again, or are in a run that is
    longer than one anyway. -/
theorem tighten_breakBeside (left right : Option Text) (t : Text) :
    tighten (left.map capFeeds) (right.map capFeeds) (breakBeside left right t) =
      tighten left right t := by
  have tags : ∀ t, strip (left.map capFeeds) (right.map capFeeds) t = strip left right t := by
    intro t
    simp only [strip, hugs_map_capFeeds]
  simp only [tighten, tags, closeGap, Option.isSome_map, all_blank_breakBeside]
  split
  · rfl
  · rw [breakBeside, squeeze_capFeeds, strip_squeeze, strip_squeeze, strip_beforeOpen, strip_afterClose]

/-- Collapsing blanks undoes the breaking of lines. -/
theorem collapseBlanks_breakStructure (sound : m.Sound) :
    collapseBlanks (m.breakStructure none).spell = collapseBlanks m.spell := by
  have both := rework_rework breakBeside tighten capFeeds squeeze none m
  rw [Option.map_none] at both
  simp only [tighten_breakBeside, squeeze_capFeeds] at both
  rw [collapseBlanks_spell (sound.breakStructure none), collapseBlanks_spell sound]
  exact congrArg spell both

end Markup
end HtmlReflow
