import HtmlReflow.Proofs.Fed
import HtmlReflow.Proofs.LocalScan

namespace HtmlReflow

namespace Pattern

variable {α : Type} {before angle : Bool} {c : Char} {s t rest : Text} {a : α}

/-- The gaps of the borders of all occurrences among pieces. An occurrence gives for each of its borders
    what stands of it before the border. -/
def placesOf (p : Pattern α) (borders : α → List Text) : List (Piece α) → List Nat
  | [] => []
  | .plain c :: pieces => (p.placesOf borders pieces).map (breadth [c] + ·)
  | .found a :: pieces =>
    (borders a).map breadth ++ (p.placesOf borders pieces).map (breadth (p.text a) + ·)

/-- The gaps of the borders of all occurrences in a text. -/
def places (p : Pattern α) (borders : α → List Text) (s : Text) : List Nat :=
  p.placesOf borders (p.pieces s)

variable {p : Pattern α} {borders : α → List Text} {f : α → Text}

theorem places_nil : p.places borders [] = [] := by
  rw [places, pieces_nil, placesOf]

theorem places_of_some (found : p.front? s = some (a, rest)) :
    p.places borders s =
      (borders a).map breadth ++ (p.places borders rest).map (breadth (p.text a) + ·) := by
  rw [places, p.pieces_of_some found, placesOf, places]

theorem places_cons_of_none (none : p.front? (c :: s) = none) :
    p.places borders (c :: s) = (p.places borders s).map (breadth [c] + ·) := by
  rw [places, p.pieces_cons_of_none none, placesOf, places]

theorem places_feed (none : p.front? ('\n' :: s) = none) :
    p.places borders ('\n' :: s) = p.places borders s := by
  rw [places_cons_of_none none]
  show (p.places borders s).map (0 + ·) = p.places borders s
  simp

/-- To write an occurrence by `f` adds a line feed at each border and nothing else. -/
def Breaks (p : Pattern α) (f : α → Text) (borders : α → List Text) : Prop :=
  ∀ a, feedless (f a) = feedless (p.text a) ∧
    (feedPlaces (f a)).Perm (feedPlaces (p.text a) ++ (borders a).map breadth)

theorem Breaks.feedless_replace (breaks : p.Breaks f borders) (s : Text) :
    feedless (p.replace f s) = feedless s := by
  induction s using p.scan_induction with
  | done => rw [p.replace_nil]
  | plain c s h ih =>
    rw [p.replace_cons_of_none _ h, ← List.singleton_append, feedless_append, ih, ← feedless_append]
    rfl
  | found s a rest h ih =>
    rw [p.replace_of_some _ h, feedless_append, (breaks a).1, ih, ← feedless_append, p.text_append h]

theorem Breaks.feedPlaces_replace (breaks : p.Breaks f borders) (s : Text) :
    (feedPlaces (p.replace f s)).Perm (feedPlaces s ++ p.places borders s) := by
  induction s using p.scan_induction with
  | done => rw [p.replace_nil, places_nil, List.append_nil]
  | plain c s h ih =>
    rw [p.replace_cons_of_none _ h, places_cons_of_none h, ← List.singleton_append, feedPlaces_append,
      ← List.singleton_append (l := s), feedPlaces_append, List.append_assoc, ← List.map_append]
    exact (ih.map _).append_left _
  | found s a rest h ih =>
    have same : breadth (f a) = breadth (p.text a) := congrArg List.length (breaks a).1
    rw [p.replace_of_some _ h, places_of_some h, feedPlaces_append, same]
    conv => rhs; rw [← p.text_append h, feedPlaces_append]
    have both := (breaks a).2.append (ih.map (breadth (p.text a) + ·))
    rw [List.map_append] at both
    refine both.trans ?_
    simp only [List.append_assoc]
    refine List.Perm.append_left _ ?_
    rw [← List.append_assoc, ← List.append_assoc]
    exact List.perm_append_comm.append_right _

/-- Line feeds that are added change nothing about the occurrences but the line feeds in them. -/
structure Stable (p : Pattern α) (borders : α → List Text) (before : Bool) : Prop where
  starts : p.StartsWith '<'
  found : ∀ s t a rest, Fed before false s t → p.front? ('<' :: s) = some (a, rest) →
    ∃ a' rest' angle, p.front? ('<' :: t) = some (a', rest') ∧ Fed before angle rest rest' ∧
      (borders a').map breadth = (borders a).map breadth ∧ breadth (p.text a') = breadth (p.text a)
  fails : ∀ s t, Fed before false s t → p.front? ('<' :: s) = none → p.front? ('<' :: t) = none

theorem Stable.places_feeds (stable : p.Stable borders before) (n : Nat) (s : Text) :
    p.places borders (List.replicate n '\n' ++ s) = p.places borders s := by
  induction n with
  | zero => rfl
  | succ n ih =>
    rw [List.replicate_succ, List.cons_append, places_feed (stable.starts _ _ (by decide)), ih]

theorem Stable.places_fed (stable : p.Stable borders before) (r : Fed before angle s t) :
    p.places borders t = p.places borders s := by
  induction s using p.scan_induction generalizing angle t with
  | done =>
    obtain ⟨n, rfl⟩ := r.nil_left
    rw [← List.append_nil (List.replicate n '\n'), stable.places_feeds]
  | plain c s h ih =>
    obtain ⟨n, t, rfl, r, _⟩ := r.cons_left
    have none : p.front? (c :: t) = none := by
      by_cases left : c = '<'
      · subst left
        exact stable.fails s t r h
      · exact stable.starts c t left
    rw [stable.places_feeds, places_cons_of_none none, places_cons_of_none h, ih r]
  | found s a rest h ih =>
    cases s with
    | nil =>
      rw [p.front?_nil] at h
      cases h
    | cons c s =>
      obtain ⟨n, t, rfl, r, _⟩ := r.cons_left
      by_cases left : c = '<'
      · subst left
        obtain ⟨a', rest', angle', front, r', sameBorders, sameText⟩ := stable.found s t a rest r h
        rw [stable.places_feeds, places_of_some front, places_of_some h, ih r', sameBorders, sameText]
      · rw [stable.starts c s left] at h
        cases h

end Pattern

theorem breaks_closes :
    StructuralClose.pattern.Breaks (fun t => t.text ++ ['\n']) (fun t => [t.text]) := by
  intro t
  show feedless (t.text ++ ['\n']) = feedless t.text ∧
    (feedPlaces (t.text ++ ['\n'])).Perm (feedPlaces t.text ++ [breadth t.text])
  rw [feedless_append, feedPlaces_append]
  exact ⟨List.append_nil _, .refl _⟩

theorem breaks_opens : StructuralOpen.pattern.Breaks (fun t => '\n' :: t.text) (fun _ => [[]]) := by
  intro t
  show feedless ('\n' :: t.text) = feedless t.text ∧
    (feedPlaces ('\n' :: t.text)).Perm (feedPlaces t.text ++ [0])
  rw [feedless_feed, feedPlaces_feed]
  exact ⟨rfl, (List.perm_append_singleton 0 _).symm⟩

/-- Before and behind the opening tag, before and behind the closing tag. -/
def Block.borders (b : Block) : List Text := [[], b.openingTag, b.openingTag ++ b.content, b.text]

theorem breaks_raw : rawPattern.Breaks Block.onLines Block.borders := by
  intro b
  have split : rawPattern.text b = b.openingTag ++ (b.content ++ b.closingTag) := rfl
  rw [split]
  constructor
  · simp [Block.onLines, feedless_append]
  · rw [List.perm_iff_count]
    intro gap
    simp [Block.onLines, Block.borders, Block.text, feedPlaces_append, breadth_append,
      List.count_cons, Nat.add_assoc]

end HtmlReflow
