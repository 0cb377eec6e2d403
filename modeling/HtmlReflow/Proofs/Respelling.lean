import HtmlReflow.Minify
import HtmlReflow.Proofs.Shielding

namespace HtmlReflow

variable {s : Text} {k : Nat}

/-- A text in which the closing tag of each block is written anew, with the name as the opening tag
    spells it. -/
def respelling (s : Text) : Text :=
  preservedPattern.replace (fun b => b.openingTag ++ (b.content ++ Block.closingTagOf b.name)) s

theorem respelling_eq (s : Text) :
    respelling s = spellPieces (respell (preservedPattern.pieces s)) := by
  rw [respelling, Pattern.replace]
  induction preservedPattern.pieces s with
  | nil => rfl
  | cons p ps ih =>
    rw [List.flatMap_cons, ih]
    cases p with
    | plain c => rfl
    | found b => rfl

/-- A placeholder has an underscore and no slash, so no closing tag that is written anew completes it. -/
theorem infix_of_infix_respelling (inside : placeholder k <:+: respelling s) :
    placeholder k <:+: s := by
  have slash : '/' ∉ placeholder k := foreign_closing '/' (by decide) k
  have mark : '_' ∈ placeholder k := List.mem_append_left _ (by decide)
  rw [respelling_eq] at inside
  have there := infix_respell (a := []) (solid_placeholder k) slash mark (scanned_pieces s).proper inside
  rwa [List.nil_append, spellPieces_pieces] at there

/-- Shielding a text and putting its contents back changes the spelling of closing tags and nothing
    else, whatever placeholders other than those of its own blocks the text is written with. -/
theorem restore_shield (absent : ∀ k < preservedBlocks s, ¬ placeholder k <:+: s) :
    restore (shield s).contents (shield s).text = respelling s ∧
      ∀ o : Options, o.removeComments = false → o.collapseWhitespace = false →
        minify o s = trim (respelling s) := by
  have restored : restore (shield s).contents (shield s).text = respelling s := by
    rw [respelling_eq]
    apply restore_shieldedFrom_respell
    intro k bound inside
    rw [← contents_length] at bound
    rw [← respelling_eq] at inside
    exact absent k bound (infix_of_infix_respelling inside)
  refine ⟨restored, ?_⟩
  intro o kept spaced
  have untouched : tidy o (shield s).text = (shield s).text := by
    rw [tidy, kept, spaced, if_neg Bool.false_ne_true, if_neg Bool.false_ne_true]
  rw [minify, untouched, restored]

theorem restore_shield_part_of_placeholder :
    (∀ k < preservedBlocks "__PRESERVED_2__<PRE>__PRESERVED_</pre>0__<style></style> ".toList,
        ¬ placeholder k <:+: "__PRESERVED_2__<PRE>__PRESERVED_</pre>0__<style></style> ".toList) ∧
      minify ⟨false, true, false, true⟩
          "__PRESERVED_2__<PRE>__PRESERVED_</pre>0__<style></style> ".toList =
        "__PRESERVED_2__<PRE>__PRESERVED_</PRE>0__<style></style>".toList := by
  have absent : ∀ k < preservedBlocks "__PRESERVED_2__<PRE>__PRESERVED_</pre>0__<style></style> ".toList,
      ¬ placeholder k <:+: "__PRESERVED_2__<PRE>__PRESERVED_</pre>0__<style></style> ".toList := by
    decide +kernel
  have whole := (restore_shield absent).2 ⟨false, true, false, true⟩ rfl rfl
  exact ⟨absent, whole.trans (by decide +kernel)⟩

end HtmlReflow
