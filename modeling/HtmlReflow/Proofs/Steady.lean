import HtmlReflow.Proofs.BareTags
import HtmlReflow.Proofs.Preservation
import HtmlReflow.Proofs.Settled

namespace HtmlReflow

variable {c : Char} {s : Text} {o : Options}

/-- What the three passes over blanks leave. -/
structure Collapsed (s : Text) : Prop where
  single : Single s
  ungapped : Ungapped s
  bare : Bare s

theorem collapsed_collapseBlanks (s : Text) : Collapsed (collapseBlanks s) where
  single := (respaced_tags _).single (single_runs _)
  ungapped := (respaced_tags _).ungapped ((respaced_runs _).ungapped (ungapped_gaps s))
  bare := bare_bareTags _

theorem Collapsed.of_cons (blank : isBlank c = true) (collapsed : Collapsed (c :: s)) : Collapsed s where
  single := collapsed.single.part (List.infix_cons List.infix_rfl)
  ungapped := collapsed.ungapped.part (List.infix_cons List.infix_rfl)
  bare := collapsed.bare.of_cons blank

theorem Collapsed.of_append (blank : isBlank c = true) (collapsed : Collapsed (s ++ [c])) :
    Collapsed s where
  single := collapsed.single.part (List.prefix_append s [c]).isInfix
  ungapped := collapsed.ungapped.part (List.prefix_append s [c]).isInfix
  bare := collapsed.bare.of_append blank

theorem Collapsed.collapseBlanks_eq_self (collapsed : Collapsed s) : collapseBlanks s = s :=
  HtmlReflow.collapseBlanks_eq_self collapsed.ungapped.no_gap collapsed.single.no_run collapsed.bare

/-- A text that has no blanks to drop, as far as the options ask for it, and whose contents come back
    to where they were. -/
structure Steady (o : Options) (s : Text) : Prop where
  collapsed : o.collapseWhitespace = true → Collapsed (shield s).text
  clean : ¬ placeholderStart <:+: s
  respelt : Respelt (preservedPattern.pieces s)

theorem Steady.of_cons (blank : isBlank c = true) (steady : Steady o (c :: s)) : Steady o s := by
  obtain ⟨collapsed, clean, respelt⟩ := steady
  rw [shield_cons_blank blank] at collapsed
  rw [pieces_cons_of_blank blank, respelt_plain] at respelt
  exact ⟨fun asked => (collapsed asked).of_cons blank, fun inside => clean (List.infix_cons inside),
    respelt⟩

theorem Steady.of_append (blank : isBlank c = true) (steady : Steady o (s ++ [c])) : Steady o s := by
  obtain ⟨collapsed, clean, respelt⟩ := steady
  rw [shield_append_blank blank] at collapsed
  rw [pieces_append_blank blank] at respelt
  exact ⟨fun asked => (collapsed asked).of_append blank,
    fun inside => clean (inside.trans (List.prefix_append _ [c]).isInfix),
    fun b member => respelt b (List.mem_append_left _ member)⟩

theorem Steady.trim (steady : Steady o s) : Steady o (trim s) :=
  trim_induction (fun _ _ blank steady => Steady.of_cons blank steady)
    (fun _ _ blank steady => Steady.of_append blank steady) steady

theorem Steady.restored (steady : Steady o s) : restore (shield s).contents (shield s).text = s := by
  have clean := steady.clean
  rw [← spellPieces_pieces s] at clean
  have back := restore_shieldedFrom steady.respelt (no_placeholder clean)
  rwa [spellPieces_pieces] at back

theorem Steady.tidy_eq_self (steady : Steady o s) (kept : o.removeComments = false) :
    tidy o (shield s).text = (shield s).text := by
  simp only [tidy, kept, Bool.false_eq_true, if_false]
  split
  · rename_i asked
    exact (steady.collapsed asked).collapseBlanks_eq_self
  · rfl

theorem steady_restore_tidy (kept : o.removeComments = false) (clean : ¬ placeholderStart <:+: s) :
    Steady o (restore (shield s).contents (tidy o (shield s).text)) := by
  have intact : Intact (cores (preservedPattern.pieces s)) (tidy o (shield s).text) :=
    (intact_shield clean).tidy kept
  have shielded := intact.shield_restore
  have clean' := intact.restore.2
  rw [← contents_shield] at shielded clean'
  refine ⟨fun asked => ?_, clean', shielded.2⟩
  rw [shielded.1, tidy, kept, if_neg Bool.false_ne_true, if_pos asked]
  exact collapsed_collapseBlanks _

/-- Where comments stay, minifying a text again changes nothing. -/
theorem minify_minify (kept : o.removeComments = false) (clean : ¬ placeholderStart <:+: s) :
    minify o (minify o s) = minify o s := by
  have steady : Steady o (minify o s) := (steady_restore_tidy kept clean).trim
  have trimmed : HtmlReflow.trim (minify o s) = minify o s := trim_trim _
  calc minify o (minify o s)
      = HtmlReflow.trim (restore (shield (minify o s)).contents (shield (minify o s)).text) := by
        rw [minify, steady.tidy_eq_self kept]
    _ = HtmlReflow.trim (minify o s) := by rw [steady.restored]
    _ = minify o s := trimmed

theorem minify_minify_loose_brackets :
    ¬ placeholderStart <:+: "> \n<pre a>  b </PRE> < <>  \t<p > c  d ".toList ∧
      minify ⟨false, true, true, true⟩ "> \n<pre a>  b </PRE> < <>  \t<p > c  d ".toList =
        "><pre a>  b </pre>< <><p >c d".toList ∧
      minify ⟨false, true, true, true⟩ "><pre a>  b </pre>< <><p >c d".toList =
        "><pre a>  b </pre>< <><p >c d".toList := by
  have clean : ¬ placeholderStart <:+: "> \n<pre a>  b </PRE> < <>  \t<p > c  d ".toList := by
    decide +kernel
  have once : minify ⟨false, true, true, true⟩ "> \n<pre a>  b </PRE> < <>  \t<p > c  d ".toList =
      "><pre a>  b </pre>< <><p >c d".toList := by decide +kernel
  have twice := minify_minify (o := ⟨false, true, true, true⟩) rfl clean
  rw [once] at twice
  exact ⟨clean, once, twice⟩

end HtmlReflow
