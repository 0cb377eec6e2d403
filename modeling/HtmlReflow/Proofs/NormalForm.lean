import HtmlReflow.Mode
import HtmlReflow.Proofs.Fed
import HtmlReflow.Proofs.OuterBlanks
import HtmlReflow.Proofs.Steady

namespace HtmlReflow

variable {o : Options} {s t u : Text} {c : Char} {angle : Bool}

theorem Respaced.drop_feeds (n : Nat) (r : Respaced false ('\n' :: u) t) :
    Respaced false (List.replicate n '\n' ++ '\n' :: u) t := by
  induction n with
  | zero => exact r
  | succ n ih =>
    refine .drop (by decide) (.inr ?_) ih
    cases n with
    | zero => exact yields_cons_iff.mpr (.inl (by decide))
    | succ n => exact yields_cons_iff.mpr (.inl (by decide))

theorem respaced_capFeeds (s : Text) : Respaced false s (capFeeds s) := by
  refine capFeeds_induction .done (fun c s t r => .keep c r.ofFalse) (fun n s t r => ?_) s
  rw [show n + 3 = (n + 1) + 2 from rfl, List.replicate_add, List.append_assoc]
  exact .drop_feeds (n + 1) (.keep '\n' (.keep '\n' r))

theorem clean_expand (clean : ¬ placeholderStart <:+: s) (raw : o.formatRawBlocks = false) :
    ¬ placeholderStart <:+: expand o s := by
  have closes := (fed_breakAfterCloses s).respaced.infix_iff solid_placeholderStart
  have opens := (fed_breakBeforeOpens (breakAfterCloses s)).respaced.infix_iff solid_placeholderStart
  have capped := (respaced_capFeeds (breakBeforeOpens (breakAfterCloses s))).infix_iff solid_placeholderStart
  rw [expand, raw, if_neg Bool.false_ne_true,
    infix_trim_iff fun c member => (solid_placeholderStart c member).1, capped, ← opens, ← closes]
  exact clean

theorem isAngle_of_blank (blank : isBlank c = true) : isAngle c = false := by
  have plain : Plain [c] := plain_of_blank (by simpa using blank)
  exact Bool.eq_false_iff.mpr (plain_iff.mp plain c List.mem_cons_self)

theorem Respaced.alternating (r : Respaced angle s t) : Alternating s → Alternating t := by
  have same : t.filter isAngle = s.filter isAngle := by
    induction r with
    | done => rfl
    | keep c _ ih => rw [List.filter_cons, List.filter_cons, ih]
    | @space _ c _ _ blank _ ih =>
      rw [List.filter_cons_of_neg (by decide), List.filter_cons_of_neg (by simp [isAngle_of_blank blank]), ih]
    | drop blank _ _ ih => rw [List.filter_cons_of_neg (by simp [isAngle_of_blank blank]), ih]
  intro alternating
  obtain ⟨n, counted⟩ := alternating
  exact ⟨n, same.trans counted⟩

theorem angles_shieldedFrom {ps : List (Piece Block)} (proper : ∀ b, .found b ∈ ps → b.Proper)
    (plain : ∀ b ∈ blocksOf ps, Plain b.content) (n : Nat) :
    (shieldedFrom n [] ps).filter isAngle = (spellPieces ps).filter isAngle := by
  induction ps generalizing n with
  | nil => rfl
  | cons p ps ih =>
    have proper' : ∀ b, .found b ∈ ps → b.Proper := fun b member => proper b (List.mem_cons_of_mem p member)
    cases p with
    | plain c =>
      rw [shieldedFrom_plain, spellPieces_plain, List.filter_cons, List.filter_cons, ih proper' plain]
    | found b =>
      have here := proper b List.mem_cons_self
      have later := ih proper' (fun b member => plain b (List.mem_cons_of_mem _ member)) (n + 1)
      have content := angles_of_plain (plain b List.mem_cons_self)
      have mark := angles_of_plain (solid_placeholder n).plain
      have name := angles_of_plain (solid_of_folded here.named).plain
      have closing := angles_of_plain (solid_of_folded here.closed).plain
      rw [shieldedFrom_found, spellPieces_found]
      simp [Block.around, Block.text, Block.openingTag, Block.closingTag, Block.closingTagOf,
        List.filter_cons, later, content, mark, name, closing]

theorem alternating_shield_iff (plain : ∀ content ∈ (shield s).contents, Plain content) :
    Alternating (shield s).text ↔ Alternating s := by
  have angles := angles_shieldedFrom (scanned_pieces s).proper
    (fun b member => plain _ (List.mem_map_of_mem member)) 0
  rw [spellPieces_pieces] at angles
  show (∃ n, (shieldedFrom 0 [] (preservedPattern.pieces s)).filter isAngle = _) ↔ _
  rw [angles]
  rfl

/-- Texts on which both modes work tag by tag: no placeholder is in them, their angle brackets come in
    pairs, and no content of a block has a `<` or more line feeds than expanding leaves. -/
structure Tame (s : Text) : Prop where
  clean : ¬ placeholderStart <:+: s
  alternating : Alternating s
  contents : ∀ content ∈ (shield s).contents, '<' ∉ content ∧ ¬ ['\n', '\n', '\n'] <:+: content

/-- Two texts with the same contents of blocks, and with the same text around them up to blanks that
    collapsing drops. -/
structure Alike (s t : Text) : Prop where
  contents : (shield t).contents = (shield s).contents
  text : trim (collapseBlanks (shield t).text) = trim (collapseBlanks (shield s).text)

theorem Alike.refl (s : Text) : Alike s s := ⟨rfl, rfl⟩

theorem Alike.trans (first : Alike s t) (second : Alike t u) : Alike s u :=
  ⟨second.contents.trans first.contents, second.text.trans first.text⟩

theorem Alike.minify_eq (alike : Alike s t) (kept : o.removeComments = false)
    (collapse : o.collapseWhitespace = true) : minify o t = minify o s := by
  have whole : ∀ s, minify o s = trim (restore (shield s).contents (collapseBlanks (shield s).text)) := by
    intro s
    rw [minify, tidy, kept, if_neg Bool.false_ne_true, if_pos collapse]
  rw [whole, whole, ← trim_restore_trim, alike.text, alike.contents, trim_restore_trim]

theorem contents_cons_blank (blank : isBlank c = true) (s : Text) :
    (shield (c :: s)).contents = (shield s).contents := by
  simp only [shield, pieces_cons_of_blank blank, blocksOf_plain]

theorem contents_append_blank (blank : isBlank c = true) (s : Text) :
    (shield (s ++ [c])).contents = (shield s).contents := by
  simp only [shield, blocksOf_pieces_append_blank blank]

namespace Tame

theorem exists_shields (tame : Tame s) :
    ∃ m m' : Markup, m.spell = s ∧ m.Sound ∧ m'.Sound ∧
      Markup.Shields 0 m m' (shield s).contents ∧ (shield s).text = m'.spell := by
  obtain ⟨m, sound, rfl⟩ := alternating_iff.mp tame.alternating
  have free : ∀ b ∈ blocksOf (preservedPattern.pieces m.spell), '<' ∉ b.content :=
    fun b member => (tame.contents _ (List.mem_map_of_mem member)).1
  obtain ⟨m', cs, shields⟩ := Markup.exists_shields sound free 0
  obtain ⟨text, contents⟩ := shields.shield_eq sound
  have same : (shield m.spell).contents = cs := contents
  exact ⟨m, m', rfl, sound, shields.sound sound, same ▸ shields, text⟩

theorem plain_contents (tame : Tame s) : ∀ content ∈ (shield s).contents, Plain content := by
  obtain ⟨m, m', _, sound, _, shields, _⟩ := tame.exists_shields
  exact shields.plain sound

theorem alternating_text (tame : Tame s) : Alternating (shield s).text :=
  (alternating_shield_iff tame.plain_contents).mpr tame.alternating

theorem of_cons (blank : isBlank c = true) (tame : Tame (c :: s)) : Tame s ∧ Alike (c :: s) s := by
  have tame' : Tame s := by
    obtain ⟨clean, ⟨n, counted⟩, contents⟩ := tame
    rw [List.filter_cons_of_neg (by simp [isAngle_of_blank blank])] at counted
    rw [contents_cons_blank blank] at contents
    exact ⟨fun inside => clean (List.infix_cons inside), ⟨n, counted⟩, contents⟩
  refine ⟨tame', (contents_cons_blank blank s).symm, ?_⟩
  rw [shield_cons_blank blank, trim_collapseBlanks_cons tame'.alternating_text blank]

theorem of_append (blank : isBlank c = true) (tame : Tame (s ++ [c])) : Tame s ∧ Alike (s ++ [c]) s := by
  have tame' : Tame s := by
    obtain ⟨clean, ⟨n, counted⟩, contents⟩ := tame
    have none : [c].filter isAngle = [] := List.filter_cons_of_neg (by simp [isAngle_of_blank blank])
    rw [List.filter_append, none, List.append_nil] at counted
    rw [contents_append_blank blank] at contents
    exact ⟨fun inside => clean (inside.trans (List.prefix_append s [c]).isInfix), ⟨n, counted⟩, contents⟩
  refine ⟨tame', (contents_append_blank blank s).symm, ?_⟩
  rw [shield_append_blank blank, trim_collapseBlanks_append tame'.alternating_text blank]

theorem trim (tame : Tame s) : Tame (trim s) ∧ Alike s (trim s) :=
  trim_induction (motive := fun t => Tame t ∧ Alike s t)
    (fun _ _ blank given => (given.1.of_cons blank).imp id given.2.trans)
    (fun _ _ blank given => (given.1.of_append blank).imp id given.2.trans) ⟨tame, .refl s⟩

theorem expand (tame : Tame s) (raw : o.formatRawBlocks = false) :
    Tame (expand o s) ∧ Alike s (expand o s) := by
  obtain ⟨m, m', rfl, sound, sound', shields, text⟩ := tame.exists_shields
  have broken : HtmlReflow.expand o m.spell = HtmlReflow.trim (m.breakStructure none).spell :=
    Markup.expand_spell sound raw
  have few := fun content member => (tame.contents content member).2
  have shields' : Markup.Shields 0 (m.breakStructure none) (m'.breakStructure none)
      (shield m.spell).contents := shields.breakStructure few rfl
  obtain ⟨text', contents'⟩ := shields'.shield_eq (sound.breakStructure none)
  have same : (shield (m.breakStructure none).spell).contents = (shield m.spell).contents := contents'
  have clean := clean_expand tame.clean raw
  rw [broken, infix_trim_iff fun c member => (solid_placeholderStart c member).1] at clean
  have tame' : Tame (m.breakStructure none).spell :=
    ⟨clean, (sound.breakStructure none).alternating, same ▸ tame.contents⟩
  have alike : Alike m.spell (m.breakStructure none).spell := by
    refine ⟨same, ?_⟩
    rw [show (shield (m.breakStructure none).spell).text = _ from text',
      Markup.collapseBlanks_breakStructure sound', text]
  rw [broken]
  exact tame'.trim.imp id alike.trans

theorem minify (tame : Tame s) (kept : o.removeComments = false) :
    Tame (minify o s) ∧ Alike s (minify o s) := by
  have intact : Intact (cores (preservedPattern.pieces s)) (tidy o (shield s).text) :=
    (intact_shield tame.clean).tidy kept
  have shielded := intact.shield_restore.1
  obtain ⟨blocks, clean⟩ := intact.restore
  rw [← contents_shield] at shielded blocks clean
  generalize written : restore (shield s).contents (tidy o (shield s).text) = y at shielded blocks clean
  have same : (shield y).contents = (shield s).contents := by
    rw [contents_shield, contents_shield, blocks]
  have alternating : Alternating y := by
    rw [← alternating_shield_iff (same ▸ tame.plain_contents), shielded]
    exact tidy_induction_of_kept kept (fun _ _ r => r.alternating) tame.alternating_text
  have tame' : Tame y := ⟨clean, alternating, same ▸ tame.contents⟩
  have alike : Alike s y := by
    refine ⟨same, ?_⟩
    rw [shielded, tidy, kept, if_neg Bool.false_ne_true]
    split
    · rw [(collapsed_collapseBlanks _).collapseBlanks_eq_self]
    · rfl
  rw [HtmlReflow.minify, written]
  exact tame'.trim.imp id alike.trans

theorem apply (tame : Tame s) (mode : Mode) (kept : o.removeComments = false)
    (raw : o.formatRawBlocks = false) : Tame (mode.apply o s).1 ∧ Alike s (mode.apply o s).1 := by
  cases mode with
  | minify => exact tame.minify kept
  | expand => exact tame.expand raw

theorem run (tame : Tame s) (steps : List (Mode × Options))
    (gentle : ∀ step ∈ steps, step.2.removeComments = false ∧ step.2.formatRawBlocks = false) :
    Tame (steps.foldl (fun t step => (step.1.apply step.2 t).1) s) ∧
      Alike s (steps.foldl (fun t step => (step.1.apply step.2 t).1) s) := by
  induction steps generalizing s with
  | nil => exact ⟨tame, .refl s⟩
  | cons step steps ih =>
    obtain ⟨kept, raw⟩ := gentle step List.mem_cons_self
    obtain ⟨next, alike⟩ := tame.apply step.1 kept raw
    have later := ih next fun step member => gentle step (List.mem_cons_of_mem _ member)
    exact later.imp id alike.trans

end Tame

/-- Minifying undoes every run of the two modes that leaves comments and raw blocks alone. -/
theorem minify_run (tame : Tame s) (kept : o.removeComments = false)
    (collapse : o.collapseWhitespace = true) (steps : List (Mode × Options))
    (gentle : ∀ step ∈ steps, step.2.removeComments = false ∧ step.2.formatRawBlocks = false) :
    minify o (steps.foldl (fun t step => (step.1.apply step.2 t).1) s) = minify o s :=
  (tame.run steps gentle).2.minify_eq kept collapse

/-- A block among tags with blanks of all kinds around them. -/
def spacedOut : Text := "<div> <p >\n a \t b</p>\n\n\n<PRE> x\n\n  y</pre> </div>\n".toList

def spreading : List (Mode × Options) :=
  [(.expand, ⟨false, true, true, false⟩), (.minify, ⟨false, true, false, false⟩),
    (.expand, ⟨false, false, false, false⟩)]

theorem minify_run_spreading :
    Tame spacedOut ∧
      spreading.foldl (fun t step => (step.1.apply step.2 t).1) spacedOut =
        "<div> \n\n<p >\n a \t b</p>\n\n<PRE> x\n\n  y</PRE> </div>".toList ∧
      minify ⟨false, true, true, true⟩
          "<div> \n\n<p >\n a \t b</p>\n\n<PRE> x\n\n  y</PRE> </div>".toList =
        "<div><p >a b</p><PRE> x\n\n  y</PRE></div>".toList := by
  have tame : Tame spacedOut := ⟨by decide +kernel, ⟨6, by decide +kernel⟩, by decide +kernel⟩
  have spread : spreading.foldl (fun t step => (step.1.apply step.2 t).1) spacedOut =
      "<div> \n\n<p >\n a \t b</p>\n\n<PRE> x\n\n  y</PRE> </div>".toList := by decide +kernel
  have same := minify_run (o := ⟨false, true, true, true⟩) tame rfl rfl spreading (by decide)
  rw [spread] at same
  exact ⟨tame, spread, same.trans (by decide +kernel)⟩

end HtmlReflow
