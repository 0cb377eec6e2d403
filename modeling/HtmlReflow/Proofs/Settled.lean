import HtmlReflow.Proofs.Collapsed

namespace HtmlReflow

/-- A text in which no pass of the default options finds anything to do. -/
structure Settled (s : Text) : Prop where
  comments : ∀ c, .found c ∈ Comment.pattern.pieces (shield s).text → c.isConditional = true
  gaps : ∀ g, .found g ∉ Gap.pattern.pieces (shield s).text
  runs : ∀ r, .found r ∉ BlankRun.pattern.pieces (shield s).text
  tags : ∀ t, .found t ∈ SpacedTag.pattern.pieces (shield s).text → t.before = [] ∧ t.after = []
  restored : restore (shield s).contents (shield s).text = s
  trimmed : trim s = s

variable {q : Char → Bool} {s : Text}

theorem stripComments_eq_self
    (conditional : ∀ c, .found c ∈ Comment.pattern.pieces s → c.isConditional = true) :
    stripComments true s = s := by
  apply Comment.pattern.replace_eq_self
  intro c member
  rw [conditional c member]
  rfl

theorem countP_runs_le (space : q ' ' = true → ∀ c, isBlank c = true → q c = true) :
    (BlankRun.pattern.replace (fun _ => [' ']) s).countP q ≤ s.countP q := by
  apply BlankRun.pattern.countP_replace_le
  intro r member
  obtain ⟨c, d, blanks, written, blank, _⟩ := BlankRun.exists_blanks_of_mem member
  show _ ≤ r.blanks.countP q
  rw [written, List.countP_singleton, List.countP_cons]
  split
  · rename_i counted
    rw [if_pos (space counted c blank)]
    omega
  · omega

theorem countP_collapseBlanks_le (space : q ' ' = true → ∀ c, isBlank c = true → q c = true) :
    (collapseBlanks s).countP q ≤ s.countP q :=
  Nat.le_trans countP_tags_le (Nat.le_trans (countP_runs_le space) countP_gaps_le)

/-- Every comment has a `<`, so a text with as many of them has lost no comment. -/
theorem conditional_of_countP (kept : s.countP (· == '<') ≤ (stripComments true s).countP (· == '<')) :
    ∀ c, .found c ∈ Comment.pattern.pieces s → c.isConditional = true := by
  intro c member
  by_contra removed
  have gone := Comment.pattern.le_of_countP_replace (fun c _ => by
    split
    · exact Nat.le_refl _
    · exact Nat.zero_le _) kept member
  rw [Bool.not_eq_true] at removed
  simp [removed, Comment.pattern, Comment.text, Comment.opening] at gone

theorem no_gap_of_countP
    (kept : s.countP isBlank ≤ (Gap.pattern.replace (fun _ => ['>', '<']) s).countP isBlank) :
    ∀ g, .found g ∉ Gap.pattern.pieces s := by
  intro g member
  have same := Gap.pattern.le_of_countP_replace (fun g _ => by
    simp only [Gap.pattern, Gap.text, List.countP_cons, List.countP_append]
    omega) kept member
  obtain ⟨t, rest, found⟩ := Gap.pattern.exists_front?_of_mem member
  have blank := Gap.blank_of_front? found
  have all : g.blanks.countP isBlank = g.blanks.length := List.countP_eq_length.mpr blank
  have long := List.length_pos_iff.mpr (Gap.blanks_ne_nil found)
  simp only [Gap.pattern, Gap.text, List.countP_cons, List.countP_append, all] at same
  omega

theorem no_run_of_countP
    (kept : s.countP isBlank ≤ (BlankRun.pattern.replace (fun _ => [' ']) s).countP isBlank) :
    ∀ r, .found r ∉ BlankRun.pattern.pieces s := by
  intro r member
  have same := BlankRun.pattern.le_of_countP_replace (fun r member => by
    obtain ⟨c, d, blanks, written, blank, _⟩ := BlankRun.exists_blanks_of_mem member
    show List.countP isBlank [' '] ≤ r.blanks.countP isBlank
    rw [written, List.countP_cons_of_pos blank]
    exact Nat.succ_le_succ (Nat.zero_le _)) kept member
  obtain ⟨c, d, blanks, written, blank, blank'⟩ := BlankRun.exists_blanks_of_mem member
  have same : r.blanks.countP isBlank ≤ 1 := same
  rw [written, List.countP_cons_of_pos blank, List.countP_cons_of_pos blank'] at same
  omega

theorem bare_tag_of_countP
    (kept : s.countP isBlank ≤ (SpacedTag.pattern.replace (fun t => t.tag.text) s).countP isBlank) :
    ∀ t, .found t ∈ SpacedTag.pattern.pieces s → t.before = [] ∧ t.after = [] := by
  intro t member
  have same := SpacedTag.pattern.le_of_countP_replace (fun t _ => by
    simp only [SpacedTag.pattern, SpacedTag.text, List.countP_append]
    omega) kept member
  obtain ⟨u, rest, found⟩ := SpacedTag.pattern.exists_front?_of_mem member
  obtain ⟨before, after⟩ := SpacedTag.blank_of_front? found
  have left : t.before.countP isBlank = t.before.length := List.countP_eq_length.mpr before
  have right : t.after.countP isBlank = t.after.length := List.countP_eq_length.mpr after
  simp only [SpacedTag.pattern, SpacedTag.text, List.countP_append, left, right] at same
  exact ⟨List.eq_nil_of_length_eq_zero (by omega), List.eq_nil_of_length_eq_zero (by omega)⟩

theorem gaps_eq_self (none : ∀ g, .found g ∉ Gap.pattern.pieces s) :
    Gap.pattern.replace (fun _ => ['>', '<']) s = s :=
  Gap.pattern.replace_eq_self fun g member => absurd member (none g)

theorem runs_eq_self (none : ∀ r, .found r ∉ BlankRun.pattern.pieces s) :
    BlankRun.pattern.replace (fun _ => [' ']) s = s :=
  BlankRun.pattern.replace_eq_self fun r member => absurd member (none r)

theorem tags_eq_self
    (bare : ∀ t, .found t ∈ SpacedTag.pattern.pieces s → t.before = [] ∧ t.after = []) :
    SpacedTag.pattern.replace (fun t => t.tag.text) s = s := by
  apply SpacedTag.pattern.replace_eq_self
  intro t member
  obtain ⟨before, after⟩ := bare t member
  simp [SpacedTag.pattern, SpacedTag.text, before, after]

theorem collapseBlanks_eq_self (gaps : ∀ g, .found g ∉ Gap.pattern.pieces s)
    (runs : ∀ r, .found r ∉ BlankRun.pattern.pieces s)
    (tags : ∀ t, .found t ∈ SpacedTag.pattern.pieces s → t.before = [] ∧ t.after = []) :
    collapseBlanks s = s := by
  rw [collapseBlanks, gaps_eq_self gaps, runs_eq_self runs, tags_eq_self tags]

theorem collapsed_of_countP (kept : s.countP isBlank ≤ (collapseBlanks s).countP isBlank) :
    (∀ g, .found g ∉ Gap.pattern.pieces s) ∧ (∀ r, .found r ∉ BlankRun.pattern.pieces s) ∧
      ∀ t, .found t ∈ SpacedTag.pattern.pieces s → t.before = [] ∧ t.after = [] := by
  rw [collapseBlanks] at kept
  have run : ∀ t, (BlankRun.pattern.replace (fun _ => [' ']) t).countP isBlank ≤ t.countP isBlank :=
    fun t => countP_runs_le fun _ _ => id
  have tag : ∀ t, (SpacedTag.pattern.replace (fun t => t.tag.text) t).countP isBlank ≤
      t.countP isBlank := fun t => countP_tags_le
  have gaps : ∀ g, .found g ∉ Gap.pattern.pieces s :=
    no_gap_of_countP (Nat.le_trans kept (Nat.le_trans (tag _) (run _)))
  rw [gaps_eq_self gaps] at kept
  have runs : ∀ r, .found r ∉ BlankRun.pattern.pieces s :=
    no_run_of_countP (Nat.le_trans kept (tag _))
  rw [runs_eq_self runs] at kept
  exact ⟨gaps, runs, bare_tag_of_countP kept⟩

theorem Settled.minify_eq_self (settled : Settled s) : minify {} s = s := by
  show trim (restore (shield s).contents (collapseBlanks (stripComments true (shield s).text))) = s
  rw [stripComments_eq_self settled.comments,
    collapseBlanks_eq_self settled.gaps settled.runs settled.tags, settled.restored, settled.trimmed]

/-- A text that minifying leaves as it is has lost nothing on the way, so no pass has found anything. -/
theorem settled_of_minify_eq_self (same : minify {} s = s) : Settled s := by
  have chain : trim (restore (shield s).contents
      (collapseBlanks (stripComments true (shield s).text))) = s := same
  have angles := countP_shield (q := (· == '<')) (fun c h => .inr (by simpa using h)) s
  have blanks := countP_shield (q := isBlank) (fun _ => .inl) s
  -- What a text has more than its shielded form comes back with the contents at most once.
  have back : ∀ (q : Char → Bool) (w : Text), (trim (restore (shield s).contents w)).countP q ≤
      w.countP q + (shield s).contents.flatten.countP q := fun q w =>
    Nat.le_trans (trim_sublist _).countP_le (countP_restoreFrom_le _ 0)
  have comments : ∀ c, .found c ∈ Comment.pattern.pieces (shield s).text → c.isConditional = true := by
    apply conditional_of_countP
    have bound := back (· == '<') (collapseBlanks (stripComments true (shield s).text))
    have collapsed := countP_collapseBlanks_le (q := (· == '<'))
      (s := stripComments true (shield s).text) (fun impossible => by cases impossible)
    rw [chain] at bound
    omega
  rw [stripComments_eq_self comments] at chain
  have bound := back isBlank (collapseBlanks (shield s).text)
  rw [chain] at bound
  obtain ⟨gaps, runs, tags⟩ := collapsed_of_countP (s := (shield s).text) (by omega)
  rw [collapseBlanks_eq_self gaps runs tags] at chain
  have whole := countP_restoreFrom_le (q := isBlank) (s := (shield s).text) (shield s).contents 0
  rw [← restore] at whole
  have trimmed : trim (restore (shield s).contents (shield s).text) =
      restore (shield s).contents (shield s).text := trim_eq_self (by rw [chain]; omega)
  rw [trimmed] at chain
  rw [chain] at trimmed
  exact ⟨comments, gaps, runs, tags, chain, trimmed⟩

end HtmlReflow
