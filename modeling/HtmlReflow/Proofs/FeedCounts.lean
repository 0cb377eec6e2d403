import HtmlReflow.Proofs.Feeds

namespace HtmlReflow

variable {s t : Text} {c : Char} {gap : Nat}

theorem le_breadth_of_mem_feedPlaces (member : gap ∈ feedPlaces s) : gap ≤ breadth s := by
  induction s generalizing gap with
  | nil => cases member
  | cons c s ih =>
    by_cases feed : c = '\n'
    · subst feed
      rw [feedPlaces_feed] at member
      rcases List.mem_cons.mp member with rfl | member
      · exact Nat.zero_le _
      · exact ih member
    · rw [feedPlaces_cons feed] at member
      obtain ⟨place, inside, rfl⟩ := List.mem_map.mp member
      have wider : breadth (c :: s) = breadth s + 1 := by
        rw [breadth, feedless_cons feed, List.length_cons, breadth]
      have bound := ih inside
      omega

theorem feedsIn_eq_zero_of_lt (beyond : breadth s < gap) : feedsIn s gap = 0 := by
  apply List.count_eq_zero_of_not_mem
  intro member
  have bound := le_breadth_of_mem_feedPlaces member
  omega

theorem feedsIn_append_right (s t : Text) (gap : Nat) :
    feedsIn (s ++ t) (breadth s + gap) = feedsIn s (breadth s + gap) + feedsIn t gap := by
  have injective : Function.Injective (breadth s + · : Nat → Nat) :=
    fun _ _ same => Nat.add_left_cancel same
  rw [feedsIn, feedPlaces_append, List.count_append, List.count_map_of_injective _ _ injective]
  rfl

/-- Nothing stands in the last gap of a text that does not end with a line feed. -/
theorem feedsIn_last_eq_zero (other : c ≠ '\n') (s : Text) :
    feedsIn (s ++ [c]) (breadth (s ++ [c])) = 0 := by
  have one : breadth [c] = 1 := by
    rw [breadth, feedless_cons other]
    rfl
  rw [breadth_append, one, feedsIn_append_right, feedsIn_eq_zero_of_lt (Nat.lt_succ_self _),
    feedsIn_cons_succ other]
  rfl

theorem head?_of_feedsIn (broken : 0 < feedsIn s 0) : s.head? = some '\n' := by
  cases s with
  | nil => cases broken
  | cons c s =>
    by_cases feed : c = '\n'
    · rw [feed, List.head?_cons]
    · rw [feedsIn_cons_zero feed] at broken
      cases broken

theorem getLast?_of_feedsIn (broken : 0 < feedsIn s (breadth s)) : s.getLast? = some '\n' := by
  rcases List.eq_nil_or_concat s with rfl | ⟨s, c, rfl⟩
  · cases broken
  · rw [List.concat_eq_append] at broken ⊢
    by_cases feed : c = '\n'
    · rw [feed, List.getLast?_concat]
    · rw [feedsIn_last_eq_zero feed] at broken
      cases broken

theorem feedsIn_replicate_zero (n : Nat) (s : Text) :
    feedsIn (List.replicate n '\n' ++ s) 0 = n + feedsIn s 0 := by
  induction n with
  | zero => rw [List.replicate_zero, List.nil_append, Nat.zero_add]
  | succ n ih =>
    rw [List.replicate_succ, List.cons_append, feedsIn_feed_zero, ih]
    omega

theorem feedsIn_replicate_succ (n : Nat) (s : Text) (gap : Nat) :
    feedsIn (List.replicate n '\n' ++ s) (gap + 1) = feedsIn s (gap + 1) := by
  induction n with
  | zero => rw [List.replicate_zero, List.nil_append]
  | succ n ih => rw [List.replicate_succ, List.cons_append, feedsIn_feed_succ, ih]

theorem feedsIn_spread (feeds : Nat → Nat) (free : '\n' ∉ s) (within : gap ≤ s.length) :
    feedsIn (spread feeds s) gap = feeds gap := by
  induction s generalizing feeds gap with
  | nil =>
    rw [Nat.le_zero.mp within, spread, ← List.append_nil (List.replicate _ _), feedsIn_replicate_zero]
    rfl
  | cons c s ih =>
    rw [List.mem_cons, not_or] at free
    have other : c ≠ '\n' := Ne.symm free.1
    rw [spread]
    cases gap with
    | zero => rw [feedsIn_replicate_zero, feedsIn_cons_zero other, Nat.add_zero]
    | succ gap =>
      rw [feedsIn_replicate_succ, feedsIn_cons_succ other, ih _ free.2 (Nat.le_of_succ_le_succ within)]

theorem feedless_capFeeds (s : Text) : feedless (capFeeds s) = feedless s := by
  rw [capFeeds_eq_spread, feedless_spread, feedless_eq_self (by simp [feedless])]

theorem feedsIn_capFeeds (s : Text) (gap : Nat) : feedsIn (capFeeds s) gap = min 2 (feedsIn s gap) := by
  by_cases within : gap ≤ breadth s
  · rw [capFeeds_eq_spread, feedsIn_spread _ (by simp [feedless]) within]
  · have beyond : breadth s < gap := Nat.lt_of_not_le within
    have capped : breadth (capFeeds s) < gap := by rwa [breadth, feedless_capFeeds]
    rw [feedsIn_eq_zero_of_lt beyond, feedsIn_eq_zero_of_lt capped]
    rfl

theorem not_infix_capFeeds (s : Text) : ¬ ['\n', '\n', '\n'] <:+: capFeeds s := by
  rintro ⟨u, v, written⟩
  have three := feedsIn_append_right u (['\n', '\n', '\n'] ++ v) 0
  rw [← List.append_assoc, written, feedsIn_capFeeds] at three
  have run : feedsIn (['\n', '\n', '\n'] ++ v) 0 = 3 + feedsIn v 0 := feedsIn_replicate_zero 3 v
  omega

/-- Two texts with the same other characters and as many line feeds in every gap are the same; and where
    one has no fewer in any gap, it is not shorter. -/
theorem eq_of_feedsIn_le (others : feedless t = feedless s) (le : ∀ gap, feedsIn s gap ≤ feedsIn t gap) :
    (feedPlaces s).length ≤ (feedPlaces t).length ∧
      ((feedPlaces t).length ≤ (feedPlaces s).length → t = s) := by
  have part : (feedPlaces s).Subperm (feedPlaces t) := List.subperm_ext_iff.mpr fun gap _ => le gap
  refine ⟨part.length_le, fun short => ?_⟩
  have same : ∀ gap, feedsIn t gap = feedsIn s gap :=
    fun gap => ((part.perm_of_length_le short).count_eq gap).symm
  rw [← spread_feedless t, others, funext same, spread_feedless]

end HtmlReflow
