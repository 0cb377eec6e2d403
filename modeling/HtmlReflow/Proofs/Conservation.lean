import HtmlReflow.Proofs.Respelling
import HtmlReflow.Proofs.Trim

namespace HtmlReflow

variable {s t content : Text} {ps : List (Piece Block)} {contents : List Text} {angle : Bool}
  {next i j : Nat} {o : Options}

/-- The text has placeholder `i` with a `>` in front and a `<` behind, which no other placeholder
    crosses. -/
def Walled (i : Nat) (s : Text) : Prop := '>' :: (placeholder i ++ ['<']) <:+: s

theorem Walled.inside (walled : Walled i s) : placeholder i <:+: s := by
  apply List.IsInfix.trans ?_ walled
  exact List.infix_append' ['>'] (placeholder i) ['<']

theorem Walled.part (walled : Walled i s) (part : s <:+: t) : Walled i t := walled.trans part

theorem walled_around (b : Block) (rest : Text) : Walled i (b.around (placeholder i) ++ rest) := by
  refine ⟨'<' :: (b.name ++ b.attributes), '/' :: (b.name ++ '>' :: rest), ?_⟩
  rw [Block.around_append]
  simp [Block.closingTagOf]

theorem walled_shieldedFrom (low : next ≤ i) (high : i < next + (blocksOf ps).length) :
    Walled i (shieldedFrom next [] ps) := by
  induction ps generalizing next with
  | nil =>
    rw [blocksOf, List.filterMap_nil, List.length_nil] at high
    omega
  | cons p ps ih =>
    cases p with
    | plain c =>
      rw [shieldedFrom_plain]
      exact (ih low high).part (List.infix_cons List.infix_rfl)
    | found b =>
      rw [blocksOf_found, List.length_cons] at high
      rw [shieldedFrom_found]
      by_cases here : i = next
      · rw [here]
        exact walled_around b _
      · have later : Walled i (shieldedFrom (next + 1) [] ps) := ih (by omega) (by omega)
        exact later.part (List.suffix_append _ _).isInfix

theorem Walled.respaced (walled : Walled i s) (r : Respaced angle s t) : Walled i t := by
  obtain ⟨a, b, rfl⟩ := walled
  have split : a ++ '>' :: (placeholder i ++ ['<']) ++ b = a ++ '>' :: (placeholder i ++ '<' :: b) := by
    simp
  rw [split] at r
  obtain ⟨a', t₁, angle₁, rfl, r₁⟩ := r.split_left
  obtain ⟨t₂, rfl, r₂⟩ := r₁.cons_left (by decide)
  obtain ⟨t₃, rfl, r₃⟩ := r₂.append_left_word (solid_placeholder i) (placeholder_ne_nil i)
  obtain ⟨t₄, rfl, _⟩ := r₃.cons_left (by decide)
  exact ⟨a', t₄, by simp⟩

theorem Walled.tidy (walled : Walled i s) (kept : o.removeComments = false) : Walled i (tidy o s) :=
  tidy_induction_of_kept kept (fun _ _ r walled => Walled.respaced walled r) walled

/-- One step of putting contents back leaves every other placeholder between its walls, wherever it
    finds its own. -/
theorem Walled.replaceFirst (walled : Walled j s) (other : i ≠ j) (content : Text) :
    Walled j (replaceFirst (placeholder i) content s) := by
  by_cases inside : placeholder i <:+: s
  · obtain ⟨a, b, rfl, replaced⟩ := exists_replaceFirst_eq inside content
    rw [replaced]
    obtain ⟨x, y, same⟩ := walled
    have split : a ++ (placeholder i ++ b) = x ++ '>' :: (placeholder j ++ '<' :: y) := by
      rw [← same]
      simp
    -- What is replaced crosses neither wall, and between them it would be placeholder `j` itself.
    rcases before_or_behind (foreign_right i) split with ⟨k, rfl, rfl⟩ | ⟨k, rfl, behind⟩
    · exact ⟨a ++ (content ++ k), y, by simp⟩
    · rcases before_or_behind (foreign_left i) behind.symm with ⟨k', whole, _⟩ | ⟨k', rfl, _⟩
      · exact absurd (eq_of_placeholder_within whole).2.1 other
      · exact ⟨x, k' ++ (content ++ b), by simp⟩
  · rwa [replaceFirst_eq_self inside]

theorem Walled.restoreFrom (walled : Walled j s) (outside : j < next ∨ next + contents.length ≤ j) :
    Walled j (restoreFrom next contents s) := by
  induction contents generalizing next s with
  | nil => exact walled
  | cons content contents ih =>
    rw [List.length_cons] at outside
    have other : next ≠ j := by omega
    exact ih (walled.replaceFirst other content) (by omega)

theorem walled_tidy_shield (kept : o.removeComments = false) (bound : i < (shield s).contents.length) :
    Walled i (tidy o (shield s).text) := by
  rw [contents_length] at bound
  have walled : Walled i (shield s).text :=
    walled_shieldedFrom (Nat.zero_le i) (by rwa [Nat.zero_add])
  exact walled.tidy kept

/-- The first `count` placeholders from `next` on, one after the other. -/
def placeholders (next count : Nat) : Text := (List.range' next count).flatMap placeholder

theorem placeholders_succ (next count : Nat) :
    placeholders next (count + 1) = placeholder next ++ placeholders (next + 1) count := by
  rw [placeholders, List.range'_succ, List.flatMap_cons]
  rfl

/-- Shielding exchanges contents for placeholders. -/
theorem perm_shieldedFrom (next : Nat) (ps : List (Piece Block)) :
    (shieldedFrom next [] ps ++ ((blocksOf ps).map Block.content).flatten).Perm
      (spellPieces (respell ps) ++ placeholders next (blocksOf ps).length) := by
  induction ps generalizing next with
  | nil => exact List.Perm.refl _
  | cons p ps ih =>
    cases p with
    | plain c =>
      rw [shieldedFrom_plain, respell_plain, spellPieces_plain, blocksOf_plain]
      exact (ih next).cons c
    | found b =>
      rw [shieldedFrom_found, respell_found, spellPieces_found, blocksOf_found, List.map_cons,
        List.flatten_cons, List.length_cons, placeholders_succ, Block.text_respelt,
        List.perm_iff_count]
      intro c
      have later := (ih (next + 1)).count_eq c
      simp only [Block.around, List.count_append] at later ⊢
      omega

theorem perm_shield (s : Text) : ((shield s).text ++ (shield s).contents.flatten).Perm
    (respelling s ++ placeholders 0 (shield s).contents.length) := by
  rw [respelling_eq, contents_length]
  exact perm_shieldedFrom 0 (preservedPattern.pieces s)

/-- Putting contents back exchanges placeholders for contents, as long as each step finds one. -/
theorem perm_restoreFrom (walled : ∀ i, next ≤ i → i < next + contents.length → Walled i s) :
    (restoreFrom next contents s ++ placeholders next contents.length).Perm
      (s ++ contents.flatten) := by
  induction contents generalizing next s with
  | nil => exact List.Perm.refl _
  | cons content contents ih =>
    rw [List.length_cons] at walled
    have here : Walled next s := walled next (Nat.le_refl next) (by omega)
    have others : ∀ i, next + 1 ≤ i → i < next + 1 + contents.length →
        Walled i (replaceFirst (placeholder next) content s) := by
      intro i low high
      have other : next ≠ i := by omega
      exact (walled i (by omega) (by omega)).replaceFirst other content
    rw [HtmlReflow.restoreFrom, List.length_cons, placeholders_succ, List.flatten_cons,
      List.perm_iff_count]
    intro c
    have step := (perm_replaceFirst here.inside content).count_eq c
    have later := (ih others).count_eq c
    simp only [List.count_append] at step later ⊢
    omega

/-- The characters of a text that are no blanks. -/
def nonBlanks (s : Text) : Text := s.filter fun c => !isBlank c

theorem nonBlanks_nil : nonBlanks [] = [] := rfl

theorem nonBlanks_append (s t : Text) : nonBlanks (s ++ t) = nonBlanks s ++ nonBlanks t :=
  List.filter_append s t

theorem nonBlanks_cons_of_blank {c : Char} (blank : isBlank c = true) (s : Text) :
    nonBlanks (c :: s) = nonBlanks s := by
  simp [nonBlanks, blank]

theorem nonBlanks_trim (s : Text) : nonBlanks (trim s) = nonBlanks s := by
  apply trim_induction (motive := fun t => nonBlanks t = nonBlanks s)
  · intro c t blank same
    rwa [nonBlanks_cons_of_blank blank] at same
  · intro c t blank same
    rwa [nonBlanks_append, nonBlanks_cons_of_blank blank, nonBlanks_nil, List.append_nil] at same
  · rfl

theorem Respaced.nonBlanks_eq (r : Respaced angle s t) : nonBlanks t = nonBlanks s := by
  induction r with
  | done => rfl
  | keep c _ ih =>
    simp only [nonBlanks, List.filter_cons] at ih ⊢
    rw [ih]
  | space blank _ ih => rw [nonBlanks_cons_of_blank (by decide), nonBlanks_cons_of_blank blank, ih]
  | drop blank _ _ ih => rw [nonBlanks_cons_of_blank blank, ih]

theorem nonBlanks_tidy (kept : o.removeComments = false) (s : Text) :
    nonBlanks (tidy o s) = nonBlanks s :=
  tidy_induction_of_kept (motive := fun t => nonBlanks t = nonBlanks s) kept
    (fun _ _ r same => r.nonBlanks_eq.trans same) rfl

/-- Up to their order, putting contents back into the tidied text makes of its characters what a new
    spelling of closing tags makes of those of the text. -/
theorem perm_restore_tidy (kept : o.removeComments = false) (s : Text) :
    (restore (shield s).contents (tidy o (shield s).text) ++ (shield s).text).Perm
      (tidy o (shield s).text ++ respelling s) := by
  have walled : ∀ i, 0 ≤ i → i < 0 + (shield s).contents.length →
      Walled i (tidy o (shield s).text) := by
    intro i _ bound
    rw [Nat.zero_add] at bound
    exact walled_tidy_shield kept bound
  rw [restore, List.perm_iff_count]
  intro c
  have back := (perm_restoreFrom walled).count_eq c
  have out := (perm_shield s).count_eq c
  simp only [List.count_append] at back out ⊢
  omega

theorem perm_nonBlanks_minify (kept : o.removeComments = false) (s : Text) :
    (nonBlanks (minify o s)).Perm (nonBlanks (respelling s)) := by
  have exchanged := (perm_restore_tidy kept s).filter fun c => !isBlank c
  have cancel : (nonBlanks (minify o s) ++ nonBlanks (shield s).text).Perm
      (nonBlanks (respelling s) ++ nonBlanks (shield s).text) := by
    calc (nonBlanks (minify o s) ++ nonBlanks (shield s).text).Perm
          (nonBlanks (tidy o (shield s).text) ++ nonBlanks (respelling s)) := by
          rw [minify, nonBlanks_trim, ← nonBlanks_append, ← nonBlanks_append]
          exact exchanged
      List.Perm _ (nonBlanks (shield s).text ++ nonBlanks (respelling s)) := by
          rw [nonBlanks_tidy kept]
      List.Perm _ (nonBlanks (respelling s) ++ nonBlanks (shield s).text) := List.perm_append_comm
  exact (List.perm_append_right_iff _).mp cancel

theorem exists_restore_step (kept : o.removeComments = false) (bound : i < (shield s).contents.length) :
    ∃ a b, restore ((shield s).contents.take i) (tidy o (shield s).text) = a ++ (placeholder i ++ b) ∧
      restore ((shield s).contents.take (i + 1)) (tidy o (shield s).text) =
        a ++ (contentAt (shield s).contents i ++ b) := by
  have size : ((shield s).contents.take i).length = i := List.length_take_of_le (Nat.le_of_lt bound)
  have walled : Walled i (restore ((shield s).contents.take i) (tidy o (shield s).text)) := by
    apply (walled_tidy_shield kept bound).restoreFrom
    omega
  rw [restore_take_succ bound, contentAt, List.getD_eq_getElem _ _ bound]
  exact exists_replaceFirst_eq walled.inside _

/-- Where comments stay, nothing gets lost or is there twice, whatever placeholders a text is written
    with: each step of putting contents back finds its placeholder, and in the end the characters that
    are no blanks are those of the text, but for the spelling of closing tags. -/
theorem minify_conserves (kept : o.removeComments = false) (s : Text) :
    (∀ i < (shield s).contents.length, ∃ a b,
      restore ((shield s).contents.take i) (tidy o (shield s).text) = a ++ (placeholder i ++ b) ∧
      restore ((shield s).contents.take (i + 1)) (tidy o (shield s).text) =
        a ++ (contentAt (shield s).contents i ++ b)) ∧
    (nonBlanks (minify o s)).Perm (nonBlanks (respelling s)) :=
  ⟨fun _ bound => exists_restore_step kept bound, perm_nonBlanks_minify kept s⟩

/-- The content of the first block is the placeholder of the second. -/
def forgedText : Text := "<pre>__PRESERVED_1__</PRE> <pre>b</pre>".toList

theorem minify_conserves_forged :
    minify ⟨false, true, true, true⟩ forgedText = "<pre>b</pre><pre>__PRESERVED_1__</pre>".toList ∧
    (∃ a b, restore ["__PRESERVED_1__".toList] (tidy ⟨false, true, true, true⟩ (shield forgedText).text) =
      a ++ (placeholder 1 ++ b)) ∧
    (nonBlanks (minify ⟨false, true, true, true⟩ forgedText)).Perm
      (nonBlanks "<pre>__PRESERVED_1__</pre> <pre>b</pre>".toList) := by
  obtain ⟨steps, conserved⟩ := minify_conserves (o := ⟨false, true, true, true⟩) rfl forgedText
  have contents : (shield forgedText).contents = ["__PRESERVED_1__".toList, "b".toList] := by
    decide +kernel
  have spelt : respelling forgedText = "<pre>__PRESERVED_1__</pre> <pre>b</pre>".toList := by
    decide +kernel
  rw [contents] at steps
  obtain ⟨a, b, before, _⟩ := steps 1 (by decide)
  rw [spelt] at conserved
  exact ⟨by decide +kernel, ⟨a, b, before⟩, conserved⟩

end HtmlReflow
