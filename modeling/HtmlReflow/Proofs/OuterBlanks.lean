import HtmlReflow.Proofs.MarkupShield
import HtmlReflow.Proofs.Replacement
import HtmlReflow.Proofs.Shielding

namespace HtmlReflow

variable {s u v : Text} {c : Char}

theorem trim_cons_of_blank (blank : isBlank c = true) (s : Text) : trim (c :: s) = trim s := by
  rw [trim, trimStart_cons_of_blank blank, trim]

theorem trim_append_of_blank (blank : isBlank c = true) (s : Text) : trim (s ++ [c]) = trim s := by
  rw [trim, ← trimStart_trimEnd, trimEnd_append_of_blank s blank, trimStart_trimEnd, trim]

theorem replaceFirst_cons_of_notMem (nonempty : u ≠ []) (free : c ∉ u) (s : Text) :
    replaceFirst u v (c :: s) = c :: replaceFirst u v s := by
  apply replaceFirst_cons
  intro front
  obtain ⟨d, u, rfl⟩ := List.exists_cons_of_ne_nil nonempty
  have same : d = c := (List.cons_prefix_cons.mp front).1
  exact free (same ▸ List.mem_cons_self)

theorem replaceFirst_append_of_notMem (nonempty : u ≠ []) (free : c ∉ u) (s : Text) :
    replaceFirst u v (s ++ [c]) = replaceFirst u v s ++ [c] := by
  induction s with
  | nil =>
    rw [replaceFirst_nil nonempty, List.nil_append, replaceFirst_cons_of_notMem nonempty free,
      replaceFirst_nil nonempty]
  | cons d s ih =>
    by_cases front : u <+: d :: s
    · obtain ⟨rest, same⟩ := front
      rw [← same, List.append_assoc, replaceFirst_append, replaceFirst_append, List.append_assoc]
    · have other : ¬ u <+: d :: (s ++ [c]) := by
        intro longer
        obtain ⟨rest, same⟩ := longer
        exact front (prefix_of_append_eq_append_cons (a := d :: s) (t := []) free same)
      rw [List.cons_append, replaceFirst_cons other, replaceFirst_cons front, ih, List.cons_append]

theorem restoreFrom_cons_of_blank (blank : isBlank c = true) (n : Nat) (contents : List Text)
    (s : Text) : restoreFrom n contents (c :: s) = c :: restoreFrom n contents s := by
  induction contents generalizing n s with
  | nil => rfl
  | cons content contents ih =>
    rw [restoreFrom, restoreFrom,
      replaceFirst_cons_of_notMem (placeholder_ne_nil n) (foreign_of_blank blank n), ih]

theorem restoreFrom_append_of_blank (blank : isBlank c = true) (n : Nat) (contents : List Text)
    (s : Text) : restoreFrom n contents (s ++ [c]) = restoreFrom n contents s ++ [c] := by
  induction contents generalizing n s with
  | nil => rfl
  | cons content contents ih =>
    rw [restoreFrom, restoreFrom,
      replaceFirst_append_of_notMem (placeholder_ne_nil n) (foreign_of_blank blank n), ih]

/-- Blanks at the ends are in no placeholder, so they can be trimmed before contents come back too. -/
theorem trim_restore_trim (contents : List Text) (s : Text) :
    trim (restore contents (trim s)) = trim (restore contents s) := by
  refine trim_induction (motive := fun t => trim (restore contents t) = trim (restore contents s))
    (fun c t blank same => ?_) (fun c t blank same => ?_) rfl
  · rwa [restore, restoreFrom_cons_of_blank blank, trim_cons_of_blank blank] at same
  · rwa [restore, restoreFrom_append_of_blank blank, trim_append_of_blank blank] at same

namespace Markup

variable {m : Markup}

def prepend (c : Char) : Markup → Markup
  | .text t => .text (c :: t)
  | .tag t body m => .tag (c :: t) body m

def append (c : Char) : Markup → Markup
  | .text t => .text (t ++ [c])
  | .tag t body m => .tag t body (m.append c)

theorem spell_prepend (c : Char) (m : Markup) : (m.prepend c).spell = c :: m.spell := by
  cases m with
  | text t => rfl
  | tag t body m => rfl

theorem spell_append (c : Char) (m : Markup) : (m.append c).spell = m.spell ++ [c] := by
  induction m with
  | text t => rfl
  | tag t body m ih => rw [append, spell, ih, spell]; simp

theorem Sound.prepend (blank : isBlank c = true) (sound : m.Sound) : (m.prepend c).Sound := by
  have plain : Plain [c] := plain_of_blank (by simpa using blank)
  cases m with
  | text t => exact plain_append.mpr ⟨plain, sound⟩
  | tag t body m => exact ⟨plain_append.mpr ⟨plain, sound.1⟩, sound.2⟩

theorem Sound.append (blank : isBlank c = true) (sound : m.Sound) : (m.append c).Sound := by
  have plain : Plain [c] := plain_of_blank (by simpa using blank)
  induction m with
  | text t => exact plain_append.mpr ⟨sound, plain⟩
  | tag t body m ih => exact ⟨sound.1, sound.2.1, ih sound.2.2⟩

theorem trimStart_strip (left right : Option Text) (t : Text) :
    trimStart (strip left right t) = strip left right (trimStart t) := by
  simp only [strip]
  split
  · rw [trimStart_trimEnd]
    split
    · rfl
    · rfl
  · split
    · rfl
    · rfl

theorem trimEnd_strip (left right : Option Text) (t : Text) :
    trimEnd (strip left right t) = strip left right (trimEnd t) := by
  simp only [strip]
  split
  · split
    · rw [trimStart_trimEnd]
    · rfl
  · split
    · rw [trimStart_trimEnd]
    · rfl

theorem trimStart_tighten_cons (blank : isBlank c = true) (right : Option Text) (t : Text) :
    trimStart (tighten none right (c :: t)) = trimStart (tighten none right t) := by
  rw [tighten, tighten, closeGap_first, closeGap_first, trimStart_strip, trimStart_strip,
    trimStart_squeeze, trimStart_squeeze, trimStart_cons_of_blank blank]

theorem trimEnd_tighten_append (blank : isBlank c = true) (left : Option Text) (t : Text) :
    trimEnd (tighten left none (t ++ [c])) = trimEnd (tighten left none t) := by
  rw [tighten, tighten, closeGap_last, closeGap_last, trimEnd_strip, trimEnd_strip,
    trimEnd_squeeze, trimEnd_squeeze, trimEnd_append_of_blank t blank]

theorem trimStart_rework_prepend (blank : isBlank c = true) (m : Markup) :
    trimStart ((m.prepend c).rework tighten squeeze none).spell =
      trimStart (m.rework tighten squeeze none).spell := by
  cases m with
  | text t => exact trimStart_tighten_cons blank none t
  | tag t body m =>
    rw [prepend, rework, rework, spell, spell, trimStart_append_left, trimStart_append_left,
      trimStart_tighten_cons blank]

theorem trimEnd_rework_append (blank : isBlank c = true) (left : Option Text) (m : Markup) :
    trimEnd ((m.append c).rework tighten squeeze left).spell =
      trimEnd (m.rework tighten squeeze left).spell := by
  induction m generalizing left with
  | text t => exact trimEnd_tighten_append blank left t
  | tag t body m ih =>
    have later := ih (some body)
    rw [append, rework, rework, spell, spell, trimEnd_append_cons (by decide),
      trimEnd_append_cons (by decide), trimEnd_append_cons (by decide), trimEnd_append_cons (by decide),
      later]

end Markup

theorem trim_collapseBlanks_cons (alternating : Alternating s) (blank : isBlank c = true) :
    trim (collapseBlanks (c :: s)) = trim (collapseBlanks s) := by
  obtain ⟨m, sound, rfl⟩ := alternating_iff.mp alternating
  rw [← Markup.spell_prepend, Markup.collapseBlanks_spell (sound.prepend blank),
    Markup.collapseBlanks_spell sound, trim, trim, Markup.trimStart_rework_prepend blank]

theorem trim_collapseBlanks_append (alternating : Alternating s) (blank : isBlank c = true) :
    trim (collapseBlanks (s ++ [c])) = trim (collapseBlanks s) := by
  obtain ⟨m, sound, rfl⟩ := alternating_iff.mp alternating
  rw [← Markup.spell_append, Markup.collapseBlanks_spell (sound.append blank),
    Markup.collapseBlanks_spell sound, trim, trim, ← trimStart_trimEnd, ← trimStart_trimEnd,
    Markup.trimEnd_rework_append blank]

end HtmlReflow
