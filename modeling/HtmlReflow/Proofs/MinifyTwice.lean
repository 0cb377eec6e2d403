import HtmlReflow.Proofs.CommentCuts
import HtmlReflow.Proofs.Renumbering

namespace HtmlReflow

open Marked

variable {f : Nat → Text} {m : Marked} {c : Char} {s : Text} {ps : List (Piece Block)}

/-- Shielding opens no comment: placeholders have neither `<` nor `!`. -/
theorem Marking.infix_opening (marking : Marking f m ps) (proper : ∀ b, .found b ∈ ps → b.Proper)
    (inside : Comment.opening <:+: spell placeholder m) : Comment.opening <:+: spellPieces ps := by
  induction marking with
  | nil => exact inside
  | plain c marking ih =>
    rcases List.infix_cons_iff.mp inside with front | behind
    · obtain ⟨rfl, word⟩ := List.cons_prefix_cons.mp front
      exact (List.cons_prefix_cons.mpr ⟨rfl, (marking.prefix_iff (by decide)).mpr word⟩).isInfix
    · exact List.infix_cons (ih (fun b member => proper b (List.mem_cons_of_mem _ member)) behind)
  | @found m ps b i _ _ ih =>
    have name := solid_of_folded (proper b List.mem_cons_self).named
    have angle : '>' ∉ Comment.opening := by decide
    have slash : '/' ∉ Comment.opening := by decide
    have written : spell placeholder
        (ofText b.openingTag ++ .found i :: (ofText (Block.closingTagOf b.name) ++ m)) =
        ('<' :: (b.name ++ b.attributes)) ++ '>' :: (((placeholder i ++ ['<']) ++ '/' :: b.name) ++
          '>' :: spell placeholder m) := by
      simp [Block.openingTag, Block.closingTagOf]
    rw [written, infix_append_cons_iff angle, infix_append_cons_iff angle, infix_append_cons_iff slash]
      at inside
    rw [spellPieces_found]
    rcases inside with ⟨x, y, same⟩ | (token | closing) | behind
    · refine ⟨x, y ++ '>' :: (b.content ++ b.closingTag) ++ spellPieces ps, ?_⟩
      rw [← List.append_assoc, ← List.append_assoc, same]
      simp [Block.text, Block.openingTag]
    · rcases List.mem_append.mp (token.subset (by decide : '!' ∈ Comment.opening)) with inToken | inAngle
      · exact absurd inToken (foreign_of (by decide) (by decide) i)
      · cases List.mem_singleton.mp inAngle
    · exact absurd (closing.subset (by decide)) name.left_free
    · have later := ih (fun b member => proper b (List.mem_cons_of_mem _ member)) behind
      exact later.trans (List.suffix_append _ _).isInfix

theorem infix_opening_shield (inside : Comment.opening <:+: (shield s).text) : Comment.opening <:+: s := by
  have written : (shield s).text = spell placeholder (marksFrom 0 (preservedPattern.pieces s)) :=
    spell_placeholder_marksFrom.symm
  rw [written] at inside
  have moved := (marking_marksFrom rfl).infix_opening (scanned_pieces s).proper inside
  rwa [spellPieces_pieces] at moved

theorem not_found_comment (free : ¬ Comment.opening <:+: s) :
    ∀ comment, .found comment ∉ Comment.pattern.pieces s := by
  intro comment member
  have inside : comment.text <:+: s := Comment.pattern.text_infix_of_mem member
  exact free (List.IsInfix.trans ⟨[], comment.body ++ Comment.closing, by simp [Comment.text]⟩ inside)

/-- A text after all passes but the last, which trims it. -/
structure Finished (s : Text) : Prop where
  collapsed : Collapsed (shield s).text
  conditional : AllConditional (shield s).text
  clean : ∀ i, ¬ placeholder i <:+: s
  respelt : Respelt (preservedPattern.pieces s)

namespace Finished

theorem of_cons (blank : isBlank c = true) (finished : Finished (c :: s)) : Finished s := by
  obtain ⟨collapsed, conditional, clean, respelt⟩ := finished
  rw [shield_cons_blank blank] at collapsed conditional
  rw [pieces_cons_of_blank blank, respelt_plain] at respelt
  exact ⟨collapsed.of_cons blank, conditional.of_cons blank,
    fun i inside => clean i (List.infix_cons inside), respelt⟩

theorem of_append (blank : isBlank c = true) (finished : Finished (s ++ [c])) : Finished s := by
  obtain ⟨collapsed, conditional, clean, respelt⟩ := finished
  rw [shield_append_blank blank] at collapsed conditional
  rw [pieces_append_blank blank] at respelt
  exact ⟨collapsed.of_append blank, conditional.of_append blank,
    fun i inside => clean i (inside.trans (List.prefix_append _ [c]).isInfix),
    fun b member => respelt b (List.mem_append_left _ member)⟩

theorem trim (finished : Finished s) : Finished (trim s) :=
  trim_induction (fun _ _ blank finished => of_cons blank finished)
    (fun _ _ blank finished => of_append blank finished) finished

theorem restored (finished : Finished s) : restore (shield s).contents (shield s).text = s := by
  have clean := finished.clean
  rw [← spellPieces_pieces s] at clean
  have back := restore_shieldedFrom finished.respelt clean
  rwa [spellPieces_pieces] at back

theorem settled (finished : Finished s) (trimmed : HtmlReflow.trim s = s) : Settled s where
  comments := finished.conditional
  gaps := finished.collapsed.ungapped.no_gap
  runs := finished.collapsed.single.no_run
  tags := finished.collapsed.bare
  restored := finished.restored
  trimmed := trimmed

end Finished

/-- Shielding restored pieces numbers their marks anew, which no pass notices. -/
theorem Restorable.finished (restorable : Restorable f m ps) (collapsed : Collapsed (spell placeholder m))
    (conditional : AllConditional (spell placeholder m)) : Finished (spellPieces ps) := by
  obtain ⟨marking, scanned, respelt, clean⟩ := restorable
  have shielded : (shield (spellPieces ps)).text = spell placeholder (marksFrom 0 ps) := by
    simp only [shield]
    rw [scanned, spell_placeholder_marksFrom]
  have alike : outline m = outline (marksFrom 0 ps) := marking.outline_eq (marking_marksFrom rfl)
  refine ⟨?_, ?_, clean, scanned.symm ▸ respelt⟩
  · rw [shielded]
    exact collapsed.renumbered alike
  · rw [shielded]
    exact numberless_comments.renumbered alike conditional

theorem exists_tidied (clean : ∀ i, ¬ placeholder i <:+: s) (apart : CommentsApart s) :
    ∃ m ps, tidy {} (shield s).text = spell placeholder m ∧
      Restorable (contentAt (shield s).contents) m ps ∧
      (marks m).Sublist (List.range' 0 (shield s).contents.length) := by
  obtain ⟨m₀, _, restorable₀, text₀, marks₀⟩ := exists_restorable clean
  obtain ⟨m₁, _, restorable₁, text₁, sub⟩ :=
    restorable₀.exists_stripped (x := []) (by rw [text₀]; exact apart)
  obtain ⟨m₂, ps, text₂, restorable₂, same⟩ := restorable₁.collapsed
  refine ⟨m₂, ps, ?_, restorable₂, ?_⟩
  · rw [← text₂, text₁, text₀]
    rfl
  · rwa [same, ← marks₀]

theorem finished_restore_tidy (clean : ∀ i, ¬ placeholder i <:+: s) (apart : CommentsApart s) :
    Finished (restore (shield s).contents (tidy {} (shield s).text)) := by
  obtain ⟨m, ps, text, restorable, numbers⟩ := exists_tidied clean apart
  have bounded : ∀ i ∈ marks m, i < (shield s).contents.length := fun i member => by
    simpa using List.mem_range'_1.mp (numbers.subset member)
  have tidied : tidy {} (shield s).text = collapseBlanks (stripComments true (shield s).text) := rfl
  have collapsed : Collapsed (spell placeholder m) := by
    rw [← text, tidied]
    exact collapsed_collapseBlanks _
  have conditional : AllConditional (spell placeholder m) := by
    rw [← text, tidied]
    exact collapseBlanks_induction (fun _ _ r all => AllConditional.respaced all r) apart.allConditional
  rw [text, restorable.restore bounded (numbers.nodup List.nodup_range')]
  exact restorable.finished collapsed conditional

theorem settled_minify (clean : ∀ i, ¬ placeholder i <:+: s) (apart : CommentsApart s) :
    Settled (minify {} s) :=
  (finished_restore_tidy clean apart).trim.settled (trim_trim _)

theorem commentsApart_of_unopened (free : ¬ Comment.opening <:+: s) : CommentsApart s := by
  intro xs d ys cut
  refine absurd (cut ▸ List.mem_append_right xs List.mem_cons_self) ?_
  exact not_found_comment (fun inside => free (infix_opening_shield inside)) d

/-- Minifying twice with the default options is minifying once exactly where the first time leaves
    nothing to do, as it does in a text where no comment opens, and in one without placeholders where
    every comment that is removed stands outside of tags and joins no placeholder. -/
theorem minify_minify_iff_settled (s : Text) :
    (minify {} (minify {} s) = minify {} s ↔ Settled (minify {} s)) ∧
      (¬ placeholderStart <:+: s → ¬ Comment.opening <:+: s →
        minify {} (minify {} s) = minify {} s) ∧
      ((∀ i, ¬ placeholder i <:+: s) → CommentsApart s → minify {} (minify {} s) = minify {} s) := by
  have again (clean : ∀ i, ¬ placeholder i <:+: s) (apart : CommentsApart s) :
      minify {} (minify {} s) = minify {} s := (settled_minify clean apart).minify_eq_self
  refine ⟨⟨settled_of_minify_eq_self, Settled.minify_eq_self⟩, fun clean free => ?_, again⟩
  exact again (no_placeholder clean) (commentsApart_of_unopened free)

theorem minify_minify_removed_block :
    (∀ i, ¬ placeholder i <:+: "<!--[if a]> <![endif]--> b <!-- <pre></pre> --> <pre> c</pre>".toList) ∧
      CommentsApart "<!--[if a]> <![endif]--> b <!-- <pre></pre> --> <pre> c</pre>".toList ∧
      minify {} "<!--[if a]> <![endif]--> b <!-- <pre></pre> --> <pre> c</pre>".toList =
        "<!--[if a]><![endif]-->b<pre> c</pre>".toList ∧
      minify {} "<!--[if a]><![endif]-->b<pre> c</pre>".toList =
        "<!--[if a]><![endif]-->b<pre> c</pre>".toList := by
  have clean : ∀ i, ¬ placeholder i <:+:
      "<!--[if a]> <![endif]--> b <!-- <pre></pre> --> <pre> c</pre>".toList := by
    intro i inside
    have mark := inside.subset (List.mem_append_left _ (by decide : '_' ∈ placeholderStart))
    revert mark
    decide
  have apart : CommentsApart "<!--[if a]> <![endif]--> b <!-- <pre></pre> --> <pre> c</pre>".toList := by
    intro xs d ys cut removed
    have scanned : Comment.pattern.pieces
        (shield "<!--[if a]> <![endif]--> b <!-- <pre></pre> --> <pre> c</pre>".toList).text =
          .found ⟨"[if a]> <![endif]".toList⟩ :: " b ".toList.map .plain ++
            .found ⟨" <pre>__PRESERVED_0__</pre> ".toList⟩ ::
              " <pre>__PRESERVED_1__</pre>".toList.map .plain := by
      decide +kernel
    have kept : d ≠ ⟨"[if a]> <![endif]".toList⟩ := by
      rintro rfl
      revert removed
      decide
    rw [scanned] at cut
    obtain ⟨rfl, _, rfl⟩ := (List.append_cons_inj_of_notMem (by simpa using kept) (by simp)).mp cut
    exact ⟨by decide, unjoined_cons (foreign_of_blank rfl)⟩
  have once : minify {} "<!--[if a]> <![endif]--> b <!-- <pre></pre> --> <pre> c</pre>".toList =
      "<!--[if a]><![endif]-->b<pre> c</pre>".toList := by
    decide +kernel
  have twice := (minify_minify_iff_settled _).2.2 clean apart
  rw [once] at twice
  exact ⟨clean, apart, once, twice⟩

theorem nested_comment_not_settled :
    (∀ i, ¬ placeholder i <:+: "<!<!---->---->".toList) ∧
      minify {} (minify {} "<!<!---->---->".toList) ≠ minify {} "<!<!---->---->".toList := by
  refine ⟨fun i inside => ?_, by decide +kernel⟩
  have mark : '_' ∈ "<!<!---->---->".toList := inside.subset (by simp [placeholder, placeholderStart])
  revert mark
  decide

end HtmlReflow
