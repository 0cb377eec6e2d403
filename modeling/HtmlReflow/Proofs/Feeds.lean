import HtmlReflow.Expand
import HtmlReflow.Proofs.LocalScan
import Mathlib.Data.List.Count

namespace HtmlReflow

/-- The characters of a text that are no line feeds. There is a gap before the first of them, between
    each two neighbours and behind the last. -/
def feedless (s : Text) : Text := s.filter (· != '\n')

def breadth (s : Text) : Nat := (feedless s).length

/-- The gaps that the line feeds of a text stand in, each by the number of other characters before it. -/
def feedPlaces : Text → List Nat
  | [] => []
  | c :: s => if c = '\n' then 0 :: feedPlaces s else (feedPlaces s).map (1 + ·)

/-- The number of line feeds in a gap. -/
def feedsIn (s : Text) (gap : Nat) : Nat := (feedPlaces s).count gap

/-- Writes `feeds gap` line feeds in each gap of a text that has none. -/
def spread (feeds : Nat → Nat) : Text → Text
  | [] => List.replicate (feeds 0) '\n'
  | c :: s => List.replicate (feeds 0) '\n' ++ c :: spread (fun gap => feeds (gap + 1)) s

variable {s u : Text} {c : Char}

@[simp] theorem feedless_nil : feedless [] = [] := rfl

@[simp] theorem feedless_feed (s : Text) : feedless ('\n' :: s) = feedless s := rfl

theorem feedless_cons (other : c ≠ '\n') (s : Text) : feedless (c :: s) = c :: feedless s :=
  List.filter_cons_of_pos (bne_iff_ne.mpr other)

theorem feedless_append (s t : Text) : feedless (s ++ t) = feedless s ++ feedless t :=
  List.filter_append s t

theorem feedless_eq_self (free : '\n' ∉ s) : feedless s = s := by
  apply List.filter_eq_self.mpr
  intro c member
  exact bne_iff_ne.mpr fun same => free (same ▸ member)

theorem mem_feedless (other : c ≠ '\n') : c ∈ feedless s ↔ c ∈ s := by
  simp [feedless, other]

@[simp] theorem breadth_nil : breadth [] = 0 := rfl

theorem breadth_append (s t : Text) : breadth (s ++ t) = breadth s + breadth t := by
  rw [breadth, feedless_append, List.length_append]
  rfl

@[simp] theorem feedPlaces_nil : feedPlaces [] = [] := rfl

@[simp] theorem feedPlaces_feed (s : Text) : feedPlaces ('\n' :: s) = 0 :: feedPlaces s := by
  rw [feedPlaces, if_pos rfl]

theorem feedPlaces_cons (other : c ≠ '\n') (s : Text) :
    feedPlaces (c :: s) = (feedPlaces s).map (1 + ·) := by
  rw [feedPlaces, if_neg other]

theorem map_add_map_add (k n : Nat) (places : List Nat) :
    (places.map (n + ·)).map (k + ·) = places.map (k + n + ·) := by
  simp [Function.comp_def, Nat.add_assoc]

theorem feedPlaces_append (s t : Text) :
    feedPlaces (s ++ t) = feedPlaces s ++ (feedPlaces t).map (breadth s + ·) := by
  induction s with
  | nil => simp
  | cons c s ih =>
    by_cases feed : c = '\n'
    · subst feed
      rw [List.cons_append, feedPlaces_feed, ih, feedPlaces_feed, List.cons_append]
      rfl
    · have wider : breadth (c :: s) = 1 + breadth s := by
        rw [breadth, feedless_cons feed, List.length_cons, Nat.add_comm]
        rfl
      rw [List.cons_append, feedPlaces_cons feed, ih, feedPlaces_cons feed, List.map_append,
        map_add_map_add, wider]

theorem feedsIn_feed_zero (s : Text) : feedsIn ('\n' :: s) 0 = feedsIn s 0 + 1 := by
  rw [feedsIn, feedPlaces_feed, List.count_cons_self]
  rfl

theorem feedsIn_feed_succ (s : Text) (gap : Nat) :
    feedsIn ('\n' :: s) (gap + 1) = feedsIn s (gap + 1) := by
  rw [feedsIn, feedPlaces_feed, List.count_cons_of_ne (by simp)]
  rfl

theorem feedsIn_cons_zero (other : c ≠ '\n') (s : Text) : feedsIn (c :: s) 0 = 0 := by
  rw [feedsIn, feedPlaces_cons other]
  apply List.count_eq_zero_of_not_mem
  simp

theorem feedsIn_cons_succ (other : c ≠ '\n') (s : Text) (gap : Nat) :
    feedsIn (c :: s) (gap + 1) = feedsIn s gap := by
  rw [feedsIn, feedPlaces_cons other, Nat.add_comm gap 1]
  exact List.count_map_of_injective _ _ (fun _ _ same => Nat.add_left_cancel same) gap

theorem spread_feed {feeds more : Nat → Nat} (first : more 0 = feeds 0 + 1)
    (later : ∀ gap, more (gap + 1) = feeds (gap + 1)) (s : Text) :
    spread more s = '\n' :: spread feeds s := by
  cases s with
  | nil => rw [spread, first, List.replicate_succ, spread]
  | cons c s =>
    rw [spread, first, List.replicate_succ, List.cons_append, spread]
    simp only [later]

/-- A text is what it has besides line feeds, with its line feeds in their gaps. -/
theorem spread_feedless (s : Text) : spread (feedsIn s) (feedless s) = s := by
  induction s with
  | nil => rfl
  | cons c s ih =>
    by_cases feed : c = '\n'
    · subst feed
      rw [feedless_feed, spread_feed (feedsIn_feed_zero s) (feedsIn_feed_succ s), ih]
    · rw [feedless_cons feed, spread, feedsIn_cons_zero feed]
      simp only [feedsIn_cons_succ feed]
      rw [ih]
      rfl

theorem FeedRun.stops (other : c ≠ '\n') : FeedRun.pattern.Stops c := by
  intro u v
  have feed : (c == '\n') = false := beq_eq_false_iff_ne.mpr other
  have taken : (u ++ c :: v).takeWhile (· == '\n') = u.takeWhile (· == '\n') ∧
      (u ++ c :: v).dropWhile (· == '\n') = u.dropWhile (· == '\n') ++ c :: v := by
    induction u with
    | nil => simp [feed]
    | cons d u ih =>
      cases same : d == '\n' with
      | true => simp [same, ih]
      | false => simp [same]
  show FeedRun.front? (u ++ c :: v) = (FeedRun.front? u).map _
  simp only [FeedRun.front?, taken.1, taken.2]
  split
  · rfl
  · rfl

theorem FeedRun.exists_of_front? {r : FeedRun} {rest : Text} (found : FeedRun.front? s = some (r, rest)) :
    ∃ n, s = List.replicate (n + 3) '\n' ++ rest := by
  have written : List.replicate r.count '\n' ++ rest = s := FeedRun.pattern.text_append found
  have three : 3 ≤ r.count := by
    simp only [FeedRun.front?] at found
    split at found
    · cases found
      assumption
    · cases found
  obtain ⟨n, count⟩ := Nat.exists_eq_add_of_le' three
  exact ⟨n, by rw [← written, count]⟩

@[simp] theorem capFeeds_nil : capFeeds [] = [] := Pattern.replace_nil _ _

theorem capFeeds_cons_of_none (none : FeedRun.front? (c :: s) = none) :
    capFeeds (c :: s) = c :: capFeeds s :=
  Pattern.replace_cons_of_none _ _ none

theorem capFeeds_append_cons (other : c ≠ '\n') (u v : Text) :
    capFeeds (u ++ c :: v) = capFeeds u ++ c :: capFeeds v :=
  (FeedRun.stops other).replace_append_cons u v

theorem capFeeds_cons (other : c ≠ '\n') (s : Text) : capFeeds (c :: s) = c :: capFeeds s := by
  have parted := capFeeds_append_cons other [] s
  rwa [capFeeds_nil] at parted

/-- Capping keeps characters and cuts longer runs of line feeds. -/
theorem capFeeds_induction {motive : Text → Text → Prop} (done : motive [] [])
    (keep : ∀ c s t, motive s t → motive (c :: s) (c :: t))
    (cut : ∀ n s t, motive s t → motive (List.replicate (n + 3) '\n' ++ s) ('\n' :: '\n' :: t))
    (s : Text) : motive s (capFeeds s) := by
  induction s using FeedRun.pattern.scan_induction with
  | done => rwa [capFeeds_nil]
  | plain c s h ih =>
    rw [capFeeds_cons_of_none h]
    exact keep c s _ ih
  | found s r rest h ih =>
    have capped : capFeeds s = '\n' :: '\n' :: capFeeds rest := Pattern.replace_of_some _ _ h
    obtain ⟨n, written⟩ := FeedRun.exists_of_front? h
    rw [capped, written]
    exact cut n rest _ ih

theorem capFeeds_sublist (s : Text) : (capFeeds s).Sublist s := by
  refine capFeeds_induction (motive := fun s t => t.Sublist s) .slnil (fun c s t part => part.cons_cons c)
    (fun n s t part => ?_) s
  have dropped : t.Sublist (List.replicate (n + 1) '\n' ++ s) :=
    part.trans (List.sublist_append_right _ _)
  exact (dropped.cons_cons '\n').cons_cons '\n'

theorem capFeeds_eq_self : ¬ ['\n', '\n', '\n'] <:+: s → capFeeds s = s := by
  refine capFeeds_induction (motive := fun s t => ¬ ['\n', '\n', '\n'] <:+: s → t = s) (fun _ => rfl)
    (fun c s t same few => ?_) (fun n s t _ few => ?_) s
  · rw [same fun inside => few (List.infix_cons inside)]
  · exact absurd ⟨[], List.replicate n '\n' ++ s, rfl⟩ few

theorem length_capFeeds (s : Text) : min 2 s.length ≤ (capFeeds s).length := by
  refine capFeeds_induction (motive := fun s t => min 2 s.length ≤ t.length) (Nat.min_le_right 2 0)
    (fun c s t bound => ?_) (fun n s t _ => ?_) s
  · rw [List.length_cons, List.length_cons]
    omega
  · rw [List.length_cons, List.length_cons]
    omega

theorem all_blank_capFeeds (s : Text) : (capFeeds s).all isBlank = s.all isBlank := by
  refine capFeeds_induction (motive := fun s t => t.all isBlank = s.all isBlank) rfl
    (fun c s t same => ?_) (fun n s t same => ?_) s
  · rw [List.all_cons, List.all_cons, same]
  · have feeds : (List.replicate (n + 3) '\n').all isBlank = true := by
      apply List.all_eq_true.mpr
      intro c member
      rw [List.eq_of_mem_replicate member]
      rfl
    rw [List.all_append, feeds, ← same]
    rfl

theorem capFeeds_eq_nil_iff : capFeeds s = [] ↔ s = [] := by
  constructor
  · intro empty
    have bound := length_capFeeds s
    rw [empty, List.length_nil] at bound
    exact List.length_eq_zero_iff.mp (by omega)
  · intro empty
    rw [empty, capFeeds_nil]

theorem capFeeds_append_of_free (free : '\n' ∉ u) (v : Text) : capFeeds (u ++ v) = u ++ capFeeds v := by
  induction u with
  | nil => rfl
  | cons c u ih =>
    rw [List.mem_cons, not_or] at free
    rw [List.cons_append, capFeeds_cons (Ne.symm free.1), ih free.2]
    rfl

theorem exists_of_capFeeds_eq_append {v : Text} (free : '\n' ∉ u) (written : capFeeds s = u ++ v) :
    ∃ s', s = u ++ s' ∧ v = capFeeds s' := by
  induction u generalizing s with
  | nil => exact ⟨s, rfl, written.symm⟩
  | cons c u ih =>
    rw [List.mem_cons, not_or] at free
    have first : s.head? = some c := by
      have kept : (capFeeds s).head? = s.head? :=
        capFeeds_induction (motive := fun s t => t.head? = s.head?) rfl (fun _ _ _ _ => rfl)
          (fun _ _ _ _ => rfl) s
      rw [← kept, written]
      rfl
    obtain ⟨s, rfl⟩ := List.head?_eq_some_iff.mp first
    rw [capFeeds_cons (Ne.symm free.1)] at written
    obtain ⟨s', rfl, rest⟩ := ih free.2 (List.cons.inj written).2
    exact ⟨s', rfl, rest⟩

theorem FeedRun.front?_replicate (n : Nat) (ends : s.head? ≠ some '\n') :
    FeedRun.front? (List.replicate n '\n' ++ s) = if 3 ≤ n then some (⟨n⟩, s) else none := by
  have stops : s.takeWhile (· == '\n') = [] ∧ s.dropWhile (· == '\n') = s := by
    cases s with
    | nil => exact ⟨rfl, rfl⟩
    | cons c s =>
      have other : (c == '\n') = false := beq_eq_false_iff_ne.mpr fun same => ends (by rw [same]; rfl)
      rw [List.takeWhile_cons, List.dropWhile_cons, other]
      exact ⟨rfl, rfl⟩
  have feeds : ∀ c ∈ List.replicate n '\n', (c == '\n') = true := by
    intro c member
    exact beq_iff_eq.mpr (List.eq_of_mem_replicate member)
  rw [FeedRun.front?, List.takeWhile_append_of_pos feeds, List.dropWhile_append_of_pos feeds, stops.1,
    stops.2, List.append_nil, List.length_replicate]

theorem capFeeds_replicate (n : Nat) (ends : s.head? ≠ some '\n') :
    capFeeds (List.replicate n '\n' ++ s) = List.replicate (min 2 n) '\n' ++ capFeeds s := by
  have front := fun k => FeedRun.front?_replicate k ends
  by_cases long : 3 ≤ n
  · have found := front n
    rw [if_pos long] at found
    rw [capFeeds, Pattern.replace_of_some _ _ found, Nat.min_eq_left (by omega)]
    rfl
  · have short : n = 0 ∨ n = 1 ∨ n = 2 := by omega
    rcases short with rfl | rfl | rfl
    · rfl
    · exact capFeeds_cons_of_none (front 1)
    · have first : capFeeds ('\n' :: '\n' :: s) = _ := capFeeds_cons_of_none (front 2)
      have second : capFeeds ('\n' :: s) = _ := capFeeds_cons_of_none (front 1)
      show capFeeds ('\n' :: '\n' :: s) = '\n' :: '\n' :: capFeeds s
      rw [first, second]

theorem capFeeds_spread (feeds : Nat → Nat) (free : '\n' ∉ s) :
    capFeeds (spread feeds s) = spread (fun gap => min 2 (feeds gap)) s := by
  induction s generalizing feeds with
  | nil =>
    have capped := capFeeds_replicate (s := []) (feeds 0) (by simp)
    rw [List.append_nil] at capped
    rw [spread, capped, spread, capFeeds, Pattern.replace_nil, List.append_nil]
  | cons c s ih =>
    rw [List.mem_cons, not_or] at free
    have other : c ≠ '\n' := Ne.symm free.1
    rw [spread, capFeeds_replicate _ (by simpa using other), capFeeds_cons other, ih _ free.2, spread]

/-- At most two line feeds stay in a gap. -/
theorem capFeeds_eq_spread (s : Text) :
    capFeeds s = spread (fun gap => min 2 (feedsIn s gap)) (feedless s) := by
  have free : '\n' ∉ feedless s := by simp [feedless]
  conv => lhs; rw [← spread_feedless s, capFeeds_spread _ free]

theorem feedless_spread (feeds : Nat → Nat) (s : Text) : feedless (spread feeds s) = feedless s := by
  have none : ∀ n, feedless (List.replicate n '\n') = [] := by
    intro n
    simp [feedless]
  induction s generalizing feeds with
  | nil => exact none _
  | cons c s ih =>
    rw [spread, feedless_append, none, List.nil_append]
    by_cases feed : c = '\n'
    · rw [feed, feedless_feed, feedless_feed, ih]
    · rw [feedless_cons feed, feedless_cons feed, ih]

end HtmlReflow
