import HtmlReflow.Proofs.Steady
import HtmlReflow.Proofs.TagSpots

namespace HtmlReflow

variable {inside : Bool} {c : Char} {s t u body rest : Text} {left right : Option Spot}

/-- Whether a run of blanks stands between a `>` and a `<`. -/
def gapped (left right : Option Spot) : Bool :=
  left.any (fun d => d.char == '>') && right.any (fun d => d.char == '<')

/-- Whether a run of blanks stands next to a tag. -/
def hugged (left right : Option Spot) : Bool := left.any Spot.closes || right.any Spot.opens

def dropRun (drops : Option Spot → Option Spot → Bool) (left right : Option Spot) (u : Text) : Text :=
  if drops left right then [] else u

def squeezeRun (_left _right : Option Spot) (u : Text) : Text := if 2 ≤ u.length then [' '] else u

/-- What is left of a run of blanks: nothing at the border of a tag, else its blank or a space. -/
def collapseRun (left right : Option Spot) (u : Text) : Text :=
  if gapped left right || hugged left right then [] else squeezeRun left right u

theorem blank_squeezeRun (blank : ∀ c ∈ u, isBlank c = true) :
    ∀ c ∈ squeezeRun left right u, isBlank c = true := by
  rw [squeezeRun, ← squeeze_of_blank blank]
  exact blank_squeeze blank

theorem keepsTags_dropRun_gapped : Spacing.KeepsTags (dropRun gapped) where
  blank l r u blank := by
    unfold dropRun
    split
    · exact List.forall_mem_nil _
    · exact blank
  nil l r := by simp [dropRun]
  body d u _ nonempty := nonempty

theorem keepsTags_squeezeRun : Spacing.KeepsTags squeezeRun where
  blank _ _ _ := blank_squeezeRun
  nil _ _ := rfl
  body d u _ nonempty := by
    unfold squeezeRun
    split
    · exact List.cons_ne_nil _ _
    · exact nonempty

def Spot.edge (left : Option Spot) : Text := if left.any (fun d => d.char == '>') then ['>'] else []

theorem Gap.front?_eq_none_of_ne (blank : ∀ d ∈ u, isBlank d = true) (solid : isBlank c = false)
    (other : c ≠ '<') (s : Text) : Gap.pattern.front? ('>' :: (u ++ c :: s)) = none := by
  show Gap.front? ('>' :: (u ++ c :: s)) = none
  simp only [Gap.front?, spanBlanks_append_cons blank solid]
  split
  · rename_i spanned
    exact absurd (List.cons.inj (Prod.mk.inj spanned).2).1 other
  · rfl

theorem replace_gap_of_blank (blank : ∀ c ∈ u, isBlank c = true) (s : Text) :
    Gap.pattern.replace (fun _ => ['>', '<']) ('>' :: (u ++ '<' :: s)) =
      '>' :: Gap.pattern.replace (fun _ => ['>', '<']) ('<' :: s) := by
  have none := Gap.startsWith '<' s (by decide)
  by_cases empty : u = []
  · subst empty
    exact Pattern.replace_cons_of_none _ _ (Gap.front?_eq_none List.not_mem_nil (.inl rfl))
  · obtain ⟨g, found⟩ := Gap.front?_eq_some_of_blank (s := s) empty blank
    rw [Pattern.replace_of_some _ _ found, Pattern.replace_cons_of_none _ _ none]
    rfl

/-- Closing gaps works run by run: it looks at the characters on the two sides of each. -/
theorem gaps_spacingFrom (inside : Bool) (left : Option Spot) (s : Text) :
    Gap.pattern.replace (fun _ => ['>', '<']) (Spot.edge left ++ s) =
      Spot.edge left ++ ((spacingFrom inside s).respace (dropRun gapped) left).spell := by
  have passes : ∀ {u s : Text}, (∀ c ∈ u, isBlank c = true) →
      Gap.pattern.replace (fun _ => ['>', '<']) (u ++ s) =
        u ++ Gap.pattern.replace (fun _ => ['>', '<']) s :=
    fun blank => Gap.startsWith.replace_append (plain_of_blank blank).2 _
  induction s using blank_induction generalizing inside left with
  | blanks u blank =>
    have kept : dropRun gapped left none u = u := by simp [dropRun, gapped]
    have inText := passes (s := []) blank
    rw [List.append_nil, Pattern.replace_nil, List.append_nil] at inText
    rw [spacingFrom_of_blank blank, Spacing.respace, Spacing.spell, kept, Spot.edge]
    split
    · have none := Gap.front?_eq_none_of_free (plain_of_blank blank).1
      exact (Pattern.replace_cons_of_none _ _ none).trans (congrArg ('>' :: ·) inText)
    · exact inText
  | solid u c s blank solid ih =>
    have behind := ih ((spotAt inside c s).leads inside) (some (spotAt inside c s))
    rw [spacingFrom_append_cons blank solid, Spacing.respace, Spacing.spell, char_spotAt]
    generalize ((spacingFrom ((spotAt inside c s).leads inside) s).respace (dropRun gapped)
      (some (spotAt inside c s))).spell = rest at behind ⊢
    have fromHere : Gap.pattern.replace (fun _ => ['>', '<']) (c :: s) = c :: rest := by
      by_cases angle : c = '>'
      · simpa [Spot.edge, angle] using behind
      · rw [Pattern.replace_cons_of_none _ _ (Gap.startsWith c s angle)]
        simpa [Spot.edge, angle] using behind
    by_cases angle : left.any (fun d => d.char == '>') = true
    · rw [Spot.edge, if_pos angle]
      by_cases bracket : c = '<'
      · have closed : dropRun gapped left (some (spotAt inside c s)) u = [] := by
          simp [dropRun, gapped, angle, bracket]
        rw [closed, ← fromHere, bracket]
        exact replace_gap_of_blank blank s
      · have open' : dropRun gapped left (some (spotAt inside c s)) u = u := by
          simp [dropRun, gapped, bracket]
        have none := Gap.front?_eq_none_of_ne blank solid bracket s
        rw [open', ← fromHere, ← passes blank]
        exact Pattern.replace_cons_of_none _ _ none
    · have open' : dropRun gapped left (some (spotAt inside c s)) u = u := by
        simp [dropRun, gapped, angle]
      rw [Spot.edge, if_neg angle, open', ← fromHere, ← passes blank]
      rfl

theorem squeeze_spacingFrom (inside : Bool) (left : Option Spot) (s : Text) :
    squeeze s = ((spacingFrom inside s).respace squeezeRun left).spell := by
  induction s using blank_induction generalizing inside left with
  | blanks u blank =>
    rw [spacingFrom_of_blank blank]
    exact squeeze_of_blank blank
  | solid u c s blank solid ih =>
    rw [spacingFrom_append_cons blank solid, squeeze_append_cons solid, squeeze_of_blank blank,
      Spacing.respace, Spacing.spell, char_spotAt, ← ih]
    rfl

/-- The text behind `left`, without the blanks that a tag in front takes. -/
def Spot.freed (left : Option Spot) (s : Text) : Text :=
  if left.any Spot.closes then trimStart s else s

theorem Spot.exists_freed (blank : ∀ d ∈ u, isBlank d = true) (solid : isBlank c = false)
    (left : Option Spot) (s : Text) :
    ∃ v, Spot.freed left (u ++ c :: s) = v ++ c :: s ∧ (∀ d ∈ v, isBlank d = true) ∧
      ∀ d : Spot, d.opens = false → dropRun hugged left (some d) u = v := by
  unfold freed dropRun hugged
  cases left.any Spot.closes with
  | true => exact ⟨[], trimStart_append_cons blank solid, List.forall_mem_nil _, fun d _ => rfl⟩
  | false => exact ⟨u, rfl, blank, fun d plain => by simp [plain]⟩

theorem bareTags_freed_of_blank (blank : ∀ c ∈ u, isBlank c = true) (left : Option Spot) :
    bareTags (Spot.freed left u) = dropRun hugged left none u := by
  unfold Spot.freed dropRun hugged
  cases left.any Spot.closes with
  | true => simp [trimStart_of_blank blank, bareTags_nil]
  | false => simp [bareTags_of_blank blank]

theorem exists_body_rest (blank : ∀ d ∈ u, isBlank d = true) (other : c ≠ '>') (free : '>' ∉ body)
    (written : u ++ c :: s = body ++ '>' :: rest) :
    ∃ a, body = u ++ c :: a ∧ s = a ++ '>' :: rest ∧ '>' ∉ a := by
  rcases List.append_eq_append_iff.mp written with ⟨a, rfl, later⟩ | ⟨a, rfl, later⟩
  · cases a with
    | nil => exact absurd (List.cons.inj later).1 other
    | cons d a =>
      obtain ⟨rfl, rfl⟩ := List.cons.inj later
      exact ⟨a, rfl, rfl, fun member => free (by simp [member])⟩
  · cases a with
    | nil => exact absurd (List.cons.inj later).1.symm other
    | cons d a =>
      rw [← (List.cons.inj later).1] at blank
      cases blank '>' (by simp)

/-- Dropping the blanks around tags works run by run, outside of tags and up to the end of one. -/
theorem bareTags_spacingFrom (s : Text) :
    (∀ left, bareTags (Spot.freed left s) =
        ((spacingFrom false s).respace (dropRun hugged) left).spell) ∧
      ∀ left body rest, left.any Spot.closes = false → s = body ++ '>' :: rest → '>' ∉ body →
        ((spacingFrom true s).respace (dropRun hugged) left).spell =
          body ++ '>' :: bareTags (trimStart rest) := by
  -- The second part takes a tag that is open to its end, where the first part goes on.
  induction s using blank_induction with
  | blanks u blank =>
    constructor
    · intro left
      rw [spacingFrom_of_blank blank, bareTags_freed_of_blank blank]
      rfl
    · rintro left body rest _ rfl _
      cases blank '>' (by simp)
  | solid u c s blank solid ih =>
    obtain ⟨outside, within⟩ := ih
    constructor
    · intro left
      obtain ⟨v, front, blank', run⟩ := Spot.exists_freed blank solid left s
      rw [spacingFrom_append_cons blank solid, Spacing.respace, Spacing.spell, char_spotAt, front]
      cases found : Tag.front? (c :: s) with
      | none =>
        rw [spotAt_of_none found, run (Spot.plain c) rfl, bareTags_append_cons blank' solid found,
          Spot.leads_plain, ← outside]
        rfl
      | some x =>
        obtain ⟨tag, rest⟩ := x
        obtain ⟨written, nonempty, free⟩ := Tag.front?_eq_some.mp found
        obtain ⟨rfl, rfl⟩ := List.cons.inj written
        have start : Tag.front? (trimStart (v ++ '<' :: (tag.body ++ '>' :: rest))) =
            some (tag, rest) := by
          rw [trimStart_append_cons blank' solid, found]
        have gone : dropRun hugged left (some ⟨'<', true, false⟩) u = [] := by simp [dropRun, hugged]
        have inTag := within (some ⟨'<', true, false⟩) tag.body rest rfl rfl free
        rw [spotAt_of_tag found, gone, bareTags_of_tag start]
        show _ = '<' :: ((spacingFrom true (tag.body ++ '>' :: rest)).respace _ _).spell
        rw [inTag]
        simp [Tag.text]
    · intro left body rest open' written free
      have kept : dropRun hugged left (some (spotAt true c s)) u = u := by
        simp [dropRun, hugged, open', spotAt]
      rw [spacingFrom_append_cons blank solid, Spacing.respace, Spacing.spell, char_spotAt, kept]
      by_cases angle : c = '>'
      · subst angle
        obtain ⟨rfl, rfl⟩ := append_cons_inj_of_notMem_left (plain_of_blank blank).2 free written
        show u ++ '>' :: ((spacingFrom false s).respace _ (some ⟨'>', false, true⟩)).spell = _
        rw [← outside]
        rfl
      · obtain ⟨a, rfl, later, free'⟩ := exists_body_rest blank angle free written
        rw [spotAt_in_body angle, Spot.leads_plain, within (some (.plain c)) a rest rfl later free',
          List.append_assoc]
        rfl

/-- The three passes are one: each run is looked at once, among the tags of the text as it was. -/
theorem collapseBlanks_spacing (s : Text) :
    collapseBlanks s = ((spacing s).respace collapseRun none).spell := by
  have first : Gap.pattern.replace (fun _ => ['>', '<']) s =
      ((spacing s).respace (dropRun gapped) none).spell := by
    rw [spacing_eq_spacingFrom]
    exact gaps_spacingFrom false none s
  have second : ∀ t, squeeze t = ((spacing t).respace squeezeRun none).spell := fun t => by
    rw [spacing_eq_spacingFrom]
    exact squeeze_spacingFrom false none t
  have third : ∀ t, bareTags t = ((spacing t).respace (dropRun hugged) none).spell := fun t => by
    rw [spacing_eq_spacingFrom]
    exact (bareTags_spacingFrom t).1 none
  -- Each pass finds the tags of the pass before, so the three rules apply to one and the same runs.
  have rule : (fun l r u => dropRun hugged l r (squeezeRun l r (dropRun gapped l r u))) = collapseRun := by
    funext l r u
    unfold dropRun collapseRun
    cases gapped l r <;> cases hugged l r <;> rfl
  calc collapseBlanks s
      = bareTags (squeeze ((spacing s).respace (dropRun gapped) none).spell) := by
        rw [← first]
        rfl
    _ = bareTags (((spacing s).respace (dropRun gapped) none).respace squeezeRun none).spell := by
        rw [second, keepsTags_dropRun_gapped.spacing_respace]
    _ = ((((spacing s).respace (dropRun gapped) none).respace squeezeRun none).respace
          (dropRun hugged) none).spell := by
        rw [third, ← keepsTags_dropRun_gapped.spacing_respace, keepsTags_squeezeRun.spacing_respace]
    _ = ((spacing s).respace collapseRun none).spell := by
        rw [Spacing.respace_respace, Spacing.respace_respace, rule]

theorem blank_collapseRun (left right : Option Spot) (u : Text) (blank : ∀ c ∈ u, isBlank c = true) :
    ∀ c ∈ collapseRun left right u, isBlank c = true := by
  unfold collapseRun
  split
  · exact List.forall_mem_nil _
  · exact blank_squeezeRun blank

/-- Two characters of a text with blanks between them, and nothing else. -/
structure Parted (s : Text) (before gap : List Spot) (left right : Spot) : Prop where
  written : ∃ after, spots s = before ++ left :: (gap ++ right :: after)
  first : isBlank left.char = false
  last : isBlank right.char = false
  nonempty : gap ≠ []
  blank : ∀ d ∈ gap, isBlank d.char = true

theorem Parted.collapseBlanks {before gap : List Spot} {left right : Spot}
    (parted : Parted s before gap left right) (open' : gapped (some left) (some right) = false)
    (free : hugged (some left) (some right) = false) :
    ∃ a c b, isBlank c = true ∧
      HtmlReflow.collapseBlanks s = a ++ left.char :: c :: right.char :: b ∧
      nonBlanks a = nonBlanks (before.map Spot.char) := by
  obtain ⟨⟨after, written⟩, first, last, nonempty, blank⟩ := parted
  have blank' : ∀ c ∈ gap.map Spot.char, isBlank c = true := List.forall_mem_map.mpr blank
  obtain ⟨c, single⟩ : ∃ c, collapseRun (some left) (some right) (gap.map Spot.char) = [c] := by
    simp only [collapseRun, open', free, Bool.or_self, Bool.false_eq_true, if_false, squeezeRun]
    split
    · exact ⟨' ', rfl⟩
    · rename_i short
      refine List.length_eq_one_iff.mp ?_
      have some := List.length_pos_iff.mpr nonempty
      rw [List.length_map] at short ⊢
      omega
  obtain ⟨a, cut, same⟩ := Spacing.exists_respace_cut first before (gap ++ right :: after)
    (List.forall_mem_nil _) blank_collapseRun none
  refine ⟨a, c, ((Spacing.cut [] after).respace collapseRun (some right)).spell, ?_, ?_, same⟩
  · exact blank_collapseRun _ _ _ blank' c (by rw [single]; exact List.mem_singleton_self c)
  · rw [collapseBlanks_spacing, spacing, written, cut, Spacing.cut_append_of_blank blank,
      List.nil_append, Spacing.cut_cons last, Spacing.respace, Spacing.spell, single]
    rfl

/-- The three passes over blanks, as one rule on the runs of blanks of a text: it keeps all other
    characters and parts what was parted, but for the borders of tags, and it leaves nothing to do. -/
theorem collapseBlanks_eq_reference (s : Text) :
    ((spacing s).Sound ∧ (spacing s).spell = s) ∧
      collapseBlanks s = ((spacing s).respace collapseRun none).spell ∧
      nonBlanks (collapseBlanks s) = nonBlanks s ∧
      (∀ before gap left right, Parted s before gap left right →
        gapped (some left) (some right) = false → hugged (some left) (some right) = false →
        ∃ a c b, isBlank c = true ∧ collapseBlanks s = a ++ left.char :: c :: right.char :: b ∧
          nonBlanks a = nonBlanks (before.map Spot.char)) ∧
      collapseBlanks (collapseBlanks s) = collapseBlanks s := by
  have kept := Spacing.nonBlanks_respace (sound_spacing s) blank_collapseRun none
  rw [spell_spacing, ← collapseBlanks_spacing] at kept
  exact ⟨⟨sound_spacing s, spell_spacing s⟩, collapseBlanks_spacing s, kept,
    fun _ _ _ _ parted => parted.collapseBlanks, (collapsed_collapseBlanks s).collapseBlanks_eq_self⟩

-- The first `<` opens the only tag, and the `>` before it makes the run between them go.
example : collapseBlanks "a >  < b \t<i  x> c".toList = "a >< b <i x>c".toList := by decide +kernel

/-- A `>` that closes no tag keeps a blank behind it. -/
theorem collapseBlanks_eq_reference_loose_angle :
    Parted "x >\t\ty < z".toList [.plain 'x', .plain ' '] [.plain '\t', .plain '\t'] (.plain '>')
        (.plain 'y') ∧
      gapped (some (.plain '>')) (some (.plain 'y')) = false ∧
      hugged (some (.plain '>')) (some (.plain 'y')) = false ∧
      ∃ a c b, isBlank c = true ∧
        collapseBlanks "x >\t\ty < z".toList = a ++ '>' :: c :: 'y' :: b ∧ nonBlanks a = ['x'] := by
  have parted : Parted "x >\t\ty < z".toList [.plain 'x', .plain ' '] [.plain '\t', .plain '\t']
      (.plain '>') (.plain 'y') :=
    ⟨⟨" < z".toList.map .plain, by decide +kernel⟩, by decide, by decide, by decide, by decide⟩
  exact ⟨parted, rfl, rfl, (collapseBlanks_eq_reference _).2.2.2.1 _ _ _ _ parted rfl rfl⟩

end HtmlReflow
