import HtmlReflow.Proofs.ExpandLaw
import HtmlReflow.Proofs.FeedCounts
import HtmlReflow.Proofs.Squeeze
import Mathlib.Data.List.Nodup
import Mathlib.Data.List.Perm.Subperm
import Mathlib.Logic.Function.Iterate

namespace HtmlReflow

variable {o : Options} {s t : Text} {c : Char}

/-- What gains weight as long as it changes, and stays below a bound, is fixed after as many steps. -/
theorem exists_fixed_iterate {α : Type} {f : α → α} {x : α} {bound : Nat} (weight : α → Nat)
    (gains : ∀ n, f (f^[n] x) = f^[n] x ∨ weight (f^[n] x) < weight (f (f^[n] x)))
    (bounded : ∀ n, weight (f^[n] x) ≤ bound) : ∃ n, n ≤ bound ∧ f (f^[n] x) = f^[n] x := by
  by_contra! moving
  have gained : ∀ n, n ≤ bound + 1 → n ≤ weight (f^[n] x) := by
    intro n
    induction n with
    | zero => exact fun _ => Nat.zero_le _
    | succ n ih =>
      intro within
      rw [Function.iterate_succ_apply']
      have before := ih (by omega)
      rcases gains n with fixed | more
      · exact absurd fixed (moving n (by omega))
      · omega
  have last := gained (bound + 1) (Nat.le_refl _)
  have limit := bounded (bound + 1)
  omega

/-- What expanding leaves: no blank stands at an end, and no gap has more than two line feeds. -/
structure Laid (s : Text) : Prop where
  first : ∀ c u, s = c :: u → isBlank c = false
  last : ∀ u c, s = u ++ [c] → isBlank c = false
  few : ∀ gap, feedsIn s gap ≤ 2

theorem first_trimStart {u : Text} (written : trimStart s = c :: u) : isBlank c = false := by
  rcases trimStart_eq_nil_or s with empty | ⟨d, t, same, solid⟩
  · rw [empty] at written
    cases written
  · rw [same] at written
    rwa [← (List.cons.inj written).1]

theorem laid_expand (o : Options) (s : Text) : Laid (expand o s) where
  first := by
    intro c u written
    rw [expand_eq, trim, ← trimStart_trimEnd] at written
    exact first_trimStart written
  last := by
    intro u c written
    rw [expand_eq, trim, trimEnd, List.reverse_eq_iff, List.reverse_append] at written
    exact first_trimStart written
  few := by
    rw [expand_eq]
    refine trim_induction (motive := fun t => ∀ gap, feedsIn t gap ≤ 2) (fun c t _ few gap => ?_)
      (fun c t _ few gap => ?_) (fun gap => ?_)
    · by_cases feed : c = '\n'
      · subst feed
        cases gap with
        | zero =>
          have here := few 0
          rw [feedsIn_feed_zero] at here
          omega
        | succ gap =>
          rw [← feedsIn_feed_succ]
          exact few _
      · rw [← feedsIn_cons_succ feed]
        exact few _
    · refine Nat.le_trans ?_ (few gap)
      rw [feedsIn, feedsIn, feedPlaces_append]
      exact List.Sublist.count_le gap (List.sublist_append_left _ _)
    · rw [feedsIn_capFeeds]
      exact Nat.min_le_left 2 _

namespace Laid

theorem feed_of_cons (laid : Laid t) (others : feedless (c :: s) = feedless t) (blank : isBlank c = true) :
    c = '\n' := by
  by_contra other
  cases t with
  | nil =>
    rw [feedless_cons other] at others
    cases others
  | cons d t =>
    have solid := laid.first d t rfl
    have notFeed : d ≠ '\n' := by
      rintro rfl
      cases solid
    rw [feedless_cons other, feedless_cons notFeed] at others
    rw [(List.cons.inj others).1, solid] at blank
    cases blank

theorem feed_of_append (laid : Laid t) (others : feedless (s ++ [c]) = feedless t)
    (blank : isBlank c = true) : c = '\n' := by
  by_contra other
  have single : ∀ {c : Char}, c ≠ '\n' → feedless [c] = [c] := fun other => feedless_cons other []
  rw [feedless_append, single other] at others
  rcases List.eq_nil_or_concat t with rfl | ⟨t, d, rfl⟩
  · exact absurd others (by simp)
  · rw [List.concat_eq_append] at laid others
    have solid := laid.last t d rfl
    have notFeed : d ≠ '\n' := by
      rintro rfl
      cases solid
    rw [feedless_append, single notFeed] at others
    rw [(List.cons.inj (List.append_inj' others rfl).2).1, solid] at blank
    cases blank

theorem feedsIn_first (laid : Laid t) : feedsIn t 0 = 0 := by
  cases t with
  | nil => rfl
  | cons c t =>
    have solid := laid.first c t rfl
    apply feedsIn_cons_zero
    rintro rfl
    cases solid

theorem feedsIn_last (laid : Laid t) : feedsIn t (breadth t) = 0 := by
  rcases List.eq_nil_or_concat t with rfl | ⟨t, c, rfl⟩
  · rfl
  · rw [List.concat_eq_append] at laid ⊢
    have solid := laid.last t c rfl
    apply feedsIn_last_eq_zero
    rintro rfl
    cases solid

/-- Nothing is trimmed but line feeds in the two outer gaps, which were empty. -/
theorem expand (laid : Laid t) (o : Options) :
    feedless (HtmlReflow.expand o t) = feedless t ∧
      ∀ gap, feedsIn t gap ≤ feedsIn (HtmlReflow.expand o t) gap := by
  rw [expand_eq]
  refine trim_induction
    (motive := fun u => feedless u = feedless t ∧ ∀ gap, feedsIn t gap ≤ feedsIn u gap)
    (fun c u blank kept => ?_) (fun c u blank kept => ?_) ⟨?_, fun gap => ?_⟩
  · obtain ⟨others, le⟩ := kept
    obtain rfl := laid.feed_of_cons others blank
    refine ⟨others, fun gap => ?_⟩
    cases gap with
    | zero =>
      rw [laid.feedsIn_first]
      exact Nat.zero_le _
    | succ gap =>
      rw [← feedsIn_feed_succ]
      exact le _
  · obtain ⟨others, le⟩ := kept
    obtain rfl := laid.feed_of_append others blank
    have shorter : feedless u = feedless t := by
      rw [← others, feedless_append]
      exact (List.append_nil _).symm
    refine ⟨shorter, fun gap => ?_⟩
    by_cases outer : gap = breadth t
    · rw [outer, laid.feedsIn_last]
      exact Nat.zero_le _
    · have here := le gap
      have same : feedsIn (u ++ ['\n']) gap = feedsIn u gap := by
        have other : gap ≠ breadth u := by rwa [breadth, shorter]
        rw [feedsIn, feedPlaces_append, List.count_append, feedsIn, Nat.add_eq_left]
        apply List.count_eq_zero_of_not_mem
        simpa using other
      rwa [same] at here
  · rw [feedless_capFeeds, feedless_breakLines]
  · have few := laid.few gap
    rw [feedsIn_capFeeds, feedsIn_breakLines]
    omega

/-- The first gap has no line feeds and each of the others two at most. -/
theorem length_feedPlaces_le (laid : Laid t) : (feedPlaces t).length ≤ 2 * breadth t := by
  have twice : (feedPlaces t).Subperm
      (List.range' 1 (breadth t) ++ List.range' 1 (breadth t)) := by
    refine List.subperm_ext_iff.mpr fun gap member => ?_
    have bound := le_breadth_of_mem_feedPlaces member
    have positive : 0 < gap := by
      rw [Nat.pos_iff_ne_zero]
      rintro rfl
      exact List.count_eq_zero.mp laid.feedsIn_first member
    have inside : gap ∈ List.range' 1 (breadth t) := List.mem_range'_1.mpr ⟨positive, by omega⟩
    rw [List.count_append, List.count_eq_one_of_mem List.nodup_range' inside]
    exact laid.few gap
  have length := twice.length_le
  rw [List.length_append, List.length_range'] at length
  omega

theorem iterate (laid : Laid t) (o : Options) (n : Nat) :
    Laid ((HtmlReflow.expand o)^[n] t) ∧ breadth ((HtmlReflow.expand o)^[n] t) = breadth t := by
  induction n with
  | zero => exact ⟨laid, rfl⟩
  | succ n ih =>
    rw [Function.iterate_succ_apply']
    refine ⟨laid_expand o _, ?_⟩
    rw [breadth, (ih.1.expand o).1]
    exact ih.2

/-- Line feeds only come, and there is room for two in each gap. -/
theorem settles (laid : Laid t) (o : Options) :
    ∃ n, n ≤ 2 * breadth t ∧
      HtmlReflow.expand o ((HtmlReflow.expand o)^[n] t) = (HtmlReflow.expand o)^[n] t := by
  refine exists_fixed_iterate (fun t => (feedPlaces t).length) (fun n => ?_) (fun n => ?_)
  · obtain ⟨others, le⟩ := (laid.iterate o n).1.expand o
    obtain ⟨_, same⟩ := eq_of_feedsIn_le others le
    rcases Nat.lt_or_ge (feedPlaces ((HtmlReflow.expand o)^[n] t)).length
      (feedPlaces (HtmlReflow.expand o ((HtmlReflow.expand o)^[n] t))).length with longer | shorter
    · exact .inr longer
    · exact .inl (same shorter)
  · obtain ⟨laid', breadth'⟩ := laid.iterate o n
    rw [← breadth']
    exact laid'.length_feedPlaces_le

end Laid

theorem breadth_expand_le (o : Options) (s : Text) : breadth (expand o s) ≤ s.length := by
  obtain ⟨_, _, front, back, _, whole⟩ := expand_eq_spread o s
  have sizes := congrArg List.length whole
  rw [List.length_append, List.length_append] at sizes
  have part : (feedless s).length ≤ s.length := List.length_filter_le _ _
  rw [breadth]
  omega

/-- Expanding again and again settles. From the first time on the other characters stay and no gap loses
    line feeds, and after no more rounds than twice the length of the text, and two, nothing changes. -/
theorem expand_settles (o : Options) (s : Text) :
    (∀ n, feedless ((expand o)^[n + 2] s) = feedless ((expand o)^[n + 1] s) ∧
      ∀ gap, feedsIn ((expand o)^[n + 1] s) gap ≤ feedsIn ((expand o)^[n + 2] s) gap) ∧
      ∃ n, n ≤ 2 * s.length + 2 ∧ ∀ m, n ≤ m → (expand o)^[m] s = (expand o)^[n] s := by
  have laid := laid_expand o s
  constructor
  · intro n
    rw [Function.iterate_succ_apply' _ (n + 1), Function.iterate_succ_apply]
    exact (laid.iterate o n).1.expand o
  · obtain ⟨n, bound, fixed⟩ := laid.settles o
    have narrow := breadth_expand_le o s
    refine ⟨n + 1, by omega, fun m later => ?_⟩
    obtain ⟨k, rfl⟩ := Nat.exists_eq_add_of_le later
    rw [Nat.add_comm, Function.iterate_add_apply, Function.iterate_succ_apply]
    exact Function.iterate_fixed fixed k

/-- A line feed in front of one `<p` makes the `<p` before it a tag the next time. -/
example : expand {} "a<p<p<p>".toList = "a<p<p\n<p>".toList ∧
    expand {} "a<p<p\n<p>".toList = "a<p\n<p\n\n<p>".toList ∧
    expand {} "a<p\n<p\n\n<p>".toList = "a\n<p\n\n<p\n\n<p>".toList := by
  decide +kernel

end HtmlReflow
