import HtmlReflow.Proofs.Conservation
import HtmlReflow.Proofs.MarkupSpacing

namespace HtmlReflow

variable {inside : Bool} {c : Char} {s t u body run : Text}

def Tag.pattern : Pattern Tag where
  front? := Tag.front?
  text := Tag.text
  text_append := Tag.text_append
  text_ne_nil := fun {_ tag _} _ => tag.text_ne_nil

/-- A character of a text, and whether it is the first or the last one of a tag. -/
structure Spot where
  char : Char
  opens : Bool
  closes : Bool
  deriving DecidableEq, Repr

def Spot.plain (c : Char) : Spot := ⟨c, false, false⟩

def Piece.spots : Piece Tag → List Spot
  | .plain c => [.plain c]
  | .found tag => ⟨'<', true, false⟩ :: (tag.body.map .plain ++ [⟨'>', false, true⟩])

/-- The characters of a text, with the ends of the tags that a scan from left to right finds. -/
def spots (s : Text) : List Spot := (Tag.pattern.pieces s).flatMap Piece.spots

theorem map_char_plain (s : Text) : (s.map Spot.plain).map Spot.char = s := by
  rw [List.map_map]
  exact List.map_id s

theorem map_char_spots (s : Text) : (spots s).map Spot.char = s := by
  have written : ∀ piece : Piece Tag, piece.spots.map Spot.char = piece.render Tag.text := by
    intro piece
    cases piece with
    | plain c => rfl
    | found tag =>
      rw [Piece.spots, List.map_cons, List.map_append, map_char_plain]
      rfl
  have scanned : Tag.pattern.replace Tag.text s = s := Tag.pattern.replace_text s
  rw [Pattern.replace] at scanned
  rw [spots, List.map_flatMap]
  simp only [written]
  exact scanned

/-- What the next character of a text is, given whether it stands inside a tag and what follows it. -/
def spotAt (inside : Bool) (c : Char) (s : Text) : Spot :=
  if inside then ⟨c, false, c == '>'⟩ else ⟨c, (Tag.front? (c :: s)).isSome, false⟩

/-- Whether the text behind a character is inside a tag. -/
def Spot.leads (d : Spot) (inside : Bool) : Bool := d.opens || (inside && !d.closes)

/-- The spots of a text that is read one character at a time, from inside a tag or not. -/
def spotsFrom (inside : Bool) : Text → List Spot
  | [] => []
  | c :: s => spotAt inside c s :: spotsFrom ((spotAt inside c s).leads inside) s

@[simp] theorem char_spotAt (inside : Bool) (c : Char) (s : Text) : (spotAt inside c s).char = c := by
  unfold spotAt
  split <;> rfl

theorem spotAt_of_none (none : Tag.front? (c :: s) = none) : spotAt false c s = .plain c := by
  rw [spotAt, none]
  rfl

theorem spotAt_of_tag {x : Tag × Text} (found : Tag.front? (c :: s) = some x) :
    spotAt false c s = ⟨c, true, false⟩ := by
  rw [spotAt, found]
  rfl

theorem spotAt_in_body (other : c ≠ '>') (s : Text) : spotAt true c s = .plain c := by
  have same : (c == '>') = false := beq_eq_false_iff_ne.mpr other
  rw [spotAt, if_pos rfl, same]
  rfl

theorem spotAt_of_blank (blank : isBlank c = true) (inside : Bool) (s : Text) :
    spotAt inside c s = .plain c := by
  cases inside with
  | true =>
    refine spotAt_in_body ?_ s
    rintro rfl
    cases blank
  | false =>
    refine spotAt_of_none ?_
    cases found : Tag.front? (c :: s) with
    | none => rfl
    | some x =>
      rw [(List.cons.inj (Tag.front?_eq_some.mp found).1).1] at blank
      cases blank

theorem Spot.leads_plain (c : Char) (inside : Bool) : (Spot.plain c).leads inside = inside := by
  simp [leads, plain]

theorem spotsFrom_of_blank (blank : ∀ c ∈ u, isBlank c = true) (inside : Bool) (s : Text) :
    spotsFrom inside (u ++ s) = u.map .plain ++ spotsFrom inside s := by
  induction u with
  | nil => rfl
  | cons c u ih =>
    rw [List.cons_append, spotsFrom, spotAt_of_blank (blank c List.mem_cons_self), Spot.leads_plain,
      ih fun d member => blank d (List.mem_cons_of_mem c member)]
    rfl

theorem spotsFrom_body (free : '>' ∉ body) (rest : Text) :
    spotsFrom true (body ++ '>' :: rest) =
      body.map .plain ++ ⟨'>', false, true⟩ :: spotsFrom false rest := by
  induction body with
  | nil => rfl
  | cons c body ih =>
    rw [List.mem_cons, not_or] at free
    rw [List.cons_append, spotsFrom, spotAt_in_body (Ne.symm free.1), Spot.leads_plain, ih free.2]
    rfl

theorem spots_eq_spotsFrom (s : Text) : spots s = spotsFrom false s := by
  induction s using Tag.pattern.scan_induction with
  | done =>
    rw [spots, Pattern.pieces_nil]
    rfl
  | plain c s h ih =>
    rw [spots, Pattern.pieces_cons_of_none _ h, List.flatMap_cons, spotsFrom, spotAt_of_none h,
      Spot.leads_plain, ← ih]
    rfl
  | found s tag rest h ih =>
    obtain ⟨rfl, nonempty, free⟩ := Tag.front?_eq_some.mp h
    have found : Tag.front? ('<' :: (tag.body ++ '>' :: rest)) = some (tag, rest) := h
    have later : Spot.leads ⟨'<', true, false⟩ false = true := rfl
    rw [spots, Pattern.pieces_of_some _ h, List.flatMap_cons, spotsFrom, spotAt_of_tag found, later,
      spotsFrom_body free, ← ih]
    simp [Piece.spots, spots]

theorem nonBlanks_of_blank (blank : ∀ c ∈ u, isBlank c = true) : nonBlanks u = [] :=
  List.filter_eq_nil_iff.mpr fun c member => by simp [blank c member]

theorem nonBlanks_cons_of_solid (solid : isBlank c = false) (s : Text) :
    nonBlanks (c :: s) = c :: nonBlanks s :=
  List.filter_cons_of_pos (by simp [solid])

/-- A text as its characters that are no blanks: each with the run of blanks before it, and the run
    behind the last one. -/
inductive Spacing where
  | blanks (u : Text)
  | solid (u : Text) (d : Spot) (rest : Spacing)
  deriving DecidableEq, Repr

namespace Spacing

variable {m : Spacing} {left : Option Spot} {f g : Option Spot → Option Spot → Text → Text}

def spell : Spacing → Text
  | .blanks u => u
  | .solid u d m => u ++ d.char :: m.spell

/-- The runs are blanks, and all blanks are in the runs. -/
def Sound : Spacing → Prop
  | .blanks u => ∀ c ∈ u, isBlank c = true
  | .solid u d m => (∀ c ∈ u, isBlank c = true) ∧ isBlank d.char = false ∧ m.Sound

/-- Changes every run, given the characters on its two sides. `left` stands in front of the whole. -/
def respace (f : Option Spot → Option Spot → Text → Text) (left : Option Spot) : Spacing → Spacing
  | .blanks u => .blanks (f left none u)
  | .solid u d m => .solid (f left (some d) u) d (m.respace f (some d))

theorem respace_respace (left : Option Spot) (m : Spacing) :
    (m.respace f left).respace g left = m.respace (fun l r u => g l r (f l r u)) left := by
  induction m generalizing left with
  | blanks u => rfl
  | solid u d m ih => rw [respace, respace, ih (some d)]; rfl

/-- Cuts spots at those that are no blanks, with the blanks before them in `run`. -/
def cut (run : Text) : List Spot → Spacing
  | [] => .blanks run
  | d :: ds => if isBlank d.char then cut (run ++ [d.char]) ds else .solid run d (cut [] ds)

theorem spell_cut (run : Text) (ds : List Spot) : (cut run ds).spell = run ++ ds.map Spot.char := by
  induction ds generalizing run with
  | nil => simp [cut, spell]
  | cons d ds ih =>
    unfold cut
    split
    · rw [ih, List.map_cons, List.append_assoc]
      rfl
    · rw [spell, ih, List.map_cons, List.nil_append]

theorem blank_append_singleton (blank : ∀ c ∈ run, isBlank c = true) (last : isBlank c = true) :
    ∀ d ∈ run ++ [c], isBlank d = true := by
  simpa [or_imp, forall_and] using ⟨blank, last⟩

theorem sound_cut (blank : ∀ c ∈ run, isBlank c = true) (ds : List Spot) : (cut run ds).Sound := by
  induction ds generalizing run with
  | nil => exact blank
  | cons d ds ih =>
    unfold cut
    split
    · rename_i here
      exact ih (blank_append_singleton blank here)
    · rename_i here
      exact ⟨blank, Bool.eq_false_iff.mpr here, ih (List.forall_mem_nil _)⟩

theorem nonBlanks_respace (sound : m.Sound)
    (blank : ∀ l r u, (∀ c ∈ u, isBlank c = true) → ∀ c ∈ f l r u, isBlank c = true)
    (left : Option Spot) : nonBlanks (m.respace f left).spell = nonBlanks m.spell := by
  induction m generalizing left with
  | blanks u =>
    rw [respace, spell, spell, nonBlanks_of_blank sound, nonBlanks_of_blank (blank _ _ _ sound)]
  | solid u d m ih =>
    obtain ⟨here, solid, later⟩ := sound
    rw [respace, spell, spell, nonBlanks_append, nonBlanks_append, nonBlanks_of_blank here,
      nonBlanks_of_blank (blank _ _ _ here), nonBlanks_cons_of_solid solid,
      nonBlanks_cons_of_solid solid, ih later]

theorem cut_append_of_blank {ds : List Spot} (blank : ∀ d ∈ ds, isBlank d.char = true) (run : Text)
    (es : List Spot) : cut run (ds ++ es) = cut (run ++ ds.map Spot.char) es := by
  induction ds generalizing run with
  | nil => simp
  | cons d ds ih =>
    have later := ih (fun e member => blank e (List.mem_cons_of_mem d member)) (run ++ [d.char])
    rw [List.append_assoc] at later
    rw [List.cons_append, cut, if_pos (blank d List.mem_cons_self), later]
    rfl

theorem cut_cons {d : Spot} (solid : isBlank d.char = false) (run : Text) (ds : List Spot) :
    cut run (d :: ds) = .solid run d (cut [] ds) := by
  rw [cut, if_neg (by simp [solid])]

theorem exists_respace_cut {d : Spot} (solid : isBlank d.char = false) (ds es : List Spot)
    (blankRun : ∀ c ∈ run, isBlank c = true)
    (blank : ∀ l r u, (∀ c ∈ u, isBlank c = true) → ∀ c ∈ f l r u, isBlank c = true)
    (left : Option Spot) :
    ∃ a, ((cut run (ds ++ d :: es)).respace f left).spell =
        a ++ d.char :: ((cut [] es).respace f (some d)).spell ∧
      nonBlanks a = nonBlanks (ds.map Spot.char) := by
  -- The blanks that stand last in `ds` belong to the run in front of `d`, so the run is carried along.
  induction ds generalizing run left with
  | nil =>
    refine ⟨f left (some d) run, ?_, nonBlanks_of_blank (blank _ _ _ blankRun)⟩
    rw [List.nil_append, cut_cons solid]
    rfl
  | cons e ds ih =>
    rw [List.cons_append]
    by_cases here : isBlank e.char = true
    · obtain ⟨a, written, same⟩ := ih (blank_append_singleton blankRun here) left
      refine ⟨a, ?_, ?_⟩
      · rw [cut, if_pos here, written]
      · rw [List.map_cons, nonBlanks_cons_of_blank here, same]
    · have solid' : isBlank e.char = false := Bool.eq_false_iff.mpr here
      obtain ⟨a, written, same⟩ := ih (List.forall_mem_nil _) (some e)
      refine ⟨f left (some e) run ++ e.char :: a, ?_, ?_⟩
      · rw [cut_cons solid', respace, spell, written, List.append_assoc, List.cons_append]
      · rw [nonBlanks_append, nonBlanks_of_blank (blank _ _ _ blankRun), List.nil_append,
          nonBlanks_cons_of_solid solid', List.map_cons, nonBlanks_cons_of_solid solid', same]

end Spacing

def spacingFrom (inside : Bool) (s : Text) : Spacing := .cut [] (spotsFrom inside s)

/-- A text by its runs of blanks. -/
def spacing (s : Text) : Spacing := .cut [] (spots s)

theorem spacing_eq_spacingFrom (s : Text) : spacing s = spacingFrom false s := by
  rw [spacing, spots_eq_spotsFrom, spacingFrom]

theorem spell_spacing (s : Text) : (spacing s).spell = s := by
  rw [spacing, Spacing.spell_cut, map_char_spots, List.nil_append]

theorem map_char_spotsFrom (inside : Bool) (s : Text) : (spotsFrom inside s).map Spot.char = s := by
  induction s generalizing inside with
  | nil => rfl
  | cons c s ih => rw [spotsFrom, List.map_cons, char_spotAt, ih]

theorem spell_spacingFrom (inside : Bool) (s : Text) : (spacingFrom inside s).spell = s := by
  rw [spacingFrom, Spacing.spell_cut, map_char_spotsFrom, List.nil_append]

theorem sound_spacing (s : Text) : (spacing s).Sound := Spacing.sound_cut (List.forall_mem_nil _) _

theorem sound_spacingFrom (inside : Bool) (s : Text) : (spacingFrom inside s).Sound :=
  Spacing.sound_cut (List.forall_mem_nil _) _

theorem spacingFrom_append_of_blank (blank : ∀ c ∈ u, isBlank c = true) (inside : Bool) (s : Text) :
    spacingFrom inside (u ++ s) = .cut u (spotsFrom inside s) := by
  have blank' : ∀ d ∈ u.map Spot.plain, isBlank d.char = true := List.forall_mem_map.mpr blank
  rw [spacingFrom, spotsFrom_of_blank blank, Spacing.cut_append_of_blank blank', List.nil_append,
    map_char_plain]

theorem spacingFrom_of_blank (blank : ∀ c ∈ u, isBlank c = true) (inside : Bool) :
    spacingFrom inside u = .blanks u := by
  have all := spacingFrom_append_of_blank blank inside []
  rwa [List.append_nil] at all

theorem spacingFrom_append_cons (blank : ∀ d ∈ u, isBlank d = true) (solid : isBlank c = false)
    (inside : Bool) (s : Text) :
    spacingFrom inside (u ++ c :: s) =
      .solid u (spotAt inside c s) (spacingFrom ((spotAt inside c s).leads inside) s) := by
  have solid' : isBlank (spotAt inside c s).char = false := by rwa [char_spotAt]
  rw [spacingFrom_append_of_blank blank, spotsFrom, Spacing.cut_cons solid']
  rfl

/-- What a change of the runs may do without making tags or breaking them. -/
structure Spacing.KeepsTags (f : Option Spot → Option Spot → Text → Text) : Prop where
  blank : ∀ l r u, (∀ c ∈ u, isBlank c = true) → ∀ c ∈ f l r u, isBlank c = true
  nil : ∀ l r, f l r [] = []
  body : ∀ d u, d.opens = false → u ≠ [] → f (some ⟨'<', true, false⟩) (some d) u ≠ []

theorem Tag.isSome_front?_cons :
    (Tag.front? ('<' :: s)).isSome = true ↔ '>' ∈ s ∧ s.head? ≠ some '>' := by
  constructor
  · intro found
    obtain ⟨x, read⟩ := Option.isSome_iff_exists.mp found
    obtain ⟨tag, rest⟩ := x
    obtain ⟨written, nonempty, free⟩ := Tag.front?_eq_some.mp read
    obtain ⟨c, body, same⟩ := List.exists_cons_of_ne_nil nonempty
    rw [(List.cons.inj written).2]
    refine ⟨by simp, ?_⟩
    rw [same] at free ⊢
    intro first
    cases first
    exact free List.mem_cons_self
  · intro h
    obtain ⟨member, other⟩ := h
    obtain ⟨body, rest, rfl, free⟩ := List.eq_append_cons_of_mem member
    have nonempty : body ≠ [] := by
      rintro rfl
      exact other rfl
    have found : Tag.front? ('<' :: (body ++ '>' :: rest)) = some (⟨body⟩, rest) :=
      Tag.front?_eq_some.mpr ⟨rfl, nonempty, free⟩
    rw [found]
    rfl

namespace Spacing.KeepsTags

variable {f : Option Spot → Option Spot → Text → Text}

theorem angle_mem_iff (keeps : KeepsTags f) (left : Option Spot) :
    '>' ∈ ((spacingFrom inside s).respace f left).spell ↔ '>' ∈ s := by
  have same := nonBlanks_respace (sound_spacingFrom inside s) keeps.blank left
  rw [spell_spacingFrom] at same
  have solid : ∀ t : Text, '>' ∈ t ↔ '>' ∈ nonBlanks t := fun t => by simp [nonBlanks, isBlank]
  rw [solid, same, ← solid]

/-- A tag is read where one was read before. -/
theorem isSome_front? (keeps : KeepsTags f) (s : Text) {o : Bool}
    (read : (Tag.front? ('<' :: s)).isSome = o) :
    (Tag.front? ('<' :: ((spacingFrom o s).respace f (some ⟨'<', o, false⟩)).spell)).isSome = o := by
  cases o with
  | true =>
    -- A tag with only blanks between its brackets must keep one of them.
    obtain ⟨member, other⟩ := Tag.isSome_front?_cons.mp read
    refine Tag.isSome_front?_cons.mpr ⟨(keeps.angle_mem_iff _).mpr member, ?_⟩
    induction s using blank_induction with
    | blanks u blank => cases blank '>' member
    | solid u c s blank solid _ =>
      rw [spacingFrom_append_cons blank solid, respace, spell, char_spotAt]
      cases u with
      | nil =>
        rw [keeps.nil]
        exact other
      | cons e u =>
        have kept := keeps.body (spotAt true c s) (e :: u) rfl (List.cons_ne_nil e u)
        have blank' := keeps.blank (some ⟨'<', true, false⟩) (some (spotAt true c s)) _ blank
        obtain ⟨e', v, same⟩ := List.exists_cons_of_ne_nil kept
        rw [same] at blank' ⊢
        intro first
        cases first
        cases blank' '>' List.mem_cons_self
  | false =>
    rw [Bool.eq_false_iff, ne_eq, Tag.isSome_front?_cons] at read ⊢
    intro h
    obtain ⟨member, other⟩ := h
    refine read ⟨(keeps.angle_mem_iff _).mp member, ?_⟩
    intro first
    obtain ⟨s, rfl⟩ := List.head?_eq_some_iff.mp first
    refine other ?_
    rw [← List.nil_append ('>' :: s), spacingFrom_append_cons (List.forall_mem_nil _) (by decide),
      respace, spell, char_spotAt, keeps.nil]
    rfl

/-- A text with its runs changed has the tags it had before. -/
theorem spacingFrom_respace (keeps : KeepsTags f) (inside : Bool) (left : Option Spot) (s : Text) :
    spacingFrom inside ((spacingFrom inside s).respace f left).spell =
      (spacingFrom inside s).respace f left := by
  induction s using blank_induction generalizing inside left with
  | blanks u blank =>
    rw [spacingFrom_of_blank blank, respace, spell, spacingFrom_of_blank (keeps.blank _ _ _ blank)]
  | solid u c s blank solid ih =>
    have same : spotAt inside c ((spacingFrom ((spotAt inside c s).leads inside) s).respace f
        (some (spotAt inside c s))).spell = spotAt inside c s := by
      cases inside with
      | true => rfl
      | false =>
        by_cases bracket : c = '<'
        · subst bracket
          have read := keeps.isSome_front? s rfl
          simp [spotAt, Spot.leads, read]
        · rw [spotAt_of_none (Tag.front?_eq_none_of_ne bracket _),
            spotAt_of_none (Tag.front?_eq_none_of_ne bracket _)]
    rw [spacingFrom_append_cons blank solid, respace, spell, char_spotAt,
      spacingFrom_append_cons (keeps.blank _ _ _ blank) solid, same, ih]

theorem spacing_respace (keeps : KeepsTags f) (s : Text) :
    spacing ((spacing s).respace f none).spell = (spacing s).respace f none := by
  simp only [spacing_eq_spacingFrom]
  exact keeps.spacingFrom_respace false none s

end Spacing.KeepsTags
end HtmlReflow
