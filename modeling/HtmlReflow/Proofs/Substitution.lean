import HtmlReflow.Proofs.CommentRemoval
import HtmlReflow.Proofs.Shielding

namespace HtmlReflow

open Marked

variable {n i : Nat} {s rest : Text} {c : Char} {m : Marked} {contents : List Text} {o : Options}

def placeholderFront? (n : Nat) (s : Text) : Option (Nat × Text) :=
  (List.range n).findSome? fun i => (afterToken? (placeholder i) s).map fun rest => (i, rest)

theorem placeholderFront?_eq_some :
    placeholderFront? n s = some (i, rest) ↔ i < n ∧ s = placeholder i ++ rest := by
  have sound : ∀ i rest, placeholderFront? n s = some (i, rest) →
      i < n ∧ s = placeholder i ++ rest := by
    intro i rest found
    obtain ⟨j, member, read⟩ := List.exists_of_findSome?_eq_some found
    obtain ⟨rest', token, same⟩ := Option.map_eq_some_iff.mp read
    cases same
    exact ⟨List.mem_range.mp member, afterToken?_eq_some.mp token⟩
  refine ⟨sound i rest, ?_⟩
  intro given
  obtain ⟨bound, written⟩ := given
  cases found : placeholderFront? n s with
  | none =>
    have fails := List.findSome?_eq_none_iff.mp found i (List.mem_range.mpr bound)
    rw [Option.map_eq_none_iff, afterToken?_eq_some.mpr written] at fails
    cases fails
  | some x =>
    obtain ⟨_, other⟩ := sound x.1 x.2 found
    obtain ⟨index, behind⟩ := eq_of_placeholder_append (other.symm.trans written)
    rw [← index, ← behind]

/-- The first `n` placeholders. Replacing them puts a text in place of each of them at once: what is
    put in is not read again. -/
def placeholderPattern (n : Nat) : Pattern Nat where
  front? := placeholderFront? n
  text := placeholder
  text_append := fun found => (placeholderFront?_eq_some.mp found).2.symm
  text_ne_nil := fun {_ i _} _ => placeholder_ne_nil i

theorem Marked.Pristine.replace_placeholders (pristine : Pristine n m) (f : Nat → Text) :
    (placeholderPattern n).replace f (spell placeholder m) = spell f m := by
  induction m with
  | nil => exact Pattern.replace_nil _ f
  | cons piece m ih =>
    cases piece with
    | plain c =>
      obtain ⟨other, pristine'⟩ := pristine_plain.mp pristine
      have front : placeholderFront? n (c :: spell placeholder m) = none := by
        cases found : placeholderFront? n (c :: spell placeholder m) with
        | none => rfl
        | some x =>
          obtain ⟨_, written⟩ := placeholderFront?_eq_some.mp (show _ = some (x.1, x.2) from found)
          exact absurd (List.cons.inj written).1 other
      rw [spell_plain, (placeholderPattern n).replace_cons_of_none f front, ih pristine', spell_plain]
    | found i =>
      obtain ⟨_, bound, _, pristine'⟩ := pristine_found.mp pristine
      have front : placeholderFront? n (placeholder i ++ spell placeholder m) =
          some (i, spell placeholder m) := placeholderFront?_eq_some.mpr ⟨bound, rfl⟩
      rw [spell_found, (placeholderPattern n).replace_of_some f front, ih pristine', spell_found]

theorem mem_spellPieces_of_marksFrom {ps : List (Piece Block)} {next : Nat}
    (member : .plain c ∈ marksFrom next ps) : c ∈ spellPieces ps := by
  induction ps generalizing next with
  | nil => cases member
  | cons p ps ih =>
    cases p with
    | plain d =>
      rcases List.mem_cons.mp member with same | member
      · cases same
        exact List.mem_cons_self
      · exact List.mem_cons_of_mem d (ih member)
    | found b =>
      have text : ∀ {u : Text}, Piece.plain c ∈ ofText u → c ∈ u := fun there => by
        simpa [ofText] using there
      simp only [marksFrom, List.mem_append, List.mem_cons, reduceCtorEq, false_or] at member
      rw [spellPieces_found, List.mem_append]
      rcases member with opening | closing | later
      · exact .inl (List.mem_append_left _ (text opening))
      · have tag := text closing
        simp only [Block.closingTagOf, List.mem_cons, List.mem_append] at tag
        left
        simp only [Block.text, Block.openingTag, Block.closingTag, Block.closingTagOf, List.mem_append,
          List.mem_cons]
        tauto
      · exact .inr (ih later)

theorem mem_shield_iff : i ∈ marks (marksFrom 0 (preservedPattern.pieces s)) ↔
    i < (shield s).contents.length := by
  rw [mem_marksFrom_iff, contents_length]

theorem pristine_shield (free : '_' ∉ s) : Pristine (shield s).contents.length
    (marksFrom 0 (preservedPattern.pieces s)) where
  closed := (marking_marksFrom rfl).closed
  bounded := fun i => mem_shield_iff.mp
  nodup := nodup_marksFrom
  free := fun member => free (by
    have there := mem_spellPieces_of_marksFrom member
    rwa [spellPieces_pieces] at there)

theorem free_contents (free : '_' ∉ s) : ∀ content ∈ (shield s).contents, '_' ∉ content := by
  intro content member inside
  obtain ⟨b, block, rfl⟩ := List.mem_map.mp member
  obtain ⟨piece, there, same⟩ := List.mem_filterMap.mp block
  cases piece with
  | plain c => cases same
  | found b' =>
    cases same
    refine free ((preservedPattern.text_infix_of_mem there).subset ?_)
    exact List.mem_append_right _ (List.mem_append_left _ inside)

/-- The text `w` has the placeholders of the shielded `s` as marks, all but those that a removed
    comment spans. -/
def Accounted (o : Options) (s w : Text) : Prop :=
  ∃ m, w = spell placeholder m ∧ Pristine (shield s).contents.length m ∧
    ∀ i < (shield s).contents.length, i ∉ marks m ↔ o.removeComments = true ∧
      Spanned o.keepConditionalComments i (shield s).text

theorem accounted_removed (free : '_' ∉ s) (o : Options) :
    Accounted o s (if o.removeComments then stripComments o.keepConditionalComments (shield s).text
      else (shield s).text) := by
  have pristine := pristine_shield free
  have shielded : (shield s).text = spell placeholder (marksFrom 0 (preservedPattern.pieces s)) :=
    spell_placeholder_marksFrom.symm
  cases removed : o.removeComments with
  | false => exact ⟨_, shielded, pristine, fun i bound => by simp [mem_shield_iff.mpr bound, removed]⟩
  | true =>
    obtain ⟨m, stripped⟩ := pristine.exists_stripped o.keepConditionalComments
    refine ⟨m, ?_, pristine.sublist stripped.sub stripped.closed, fun i bound => ?_⟩
    · rw [if_pos rfl, shielded, stripped.text]
    · rw [stripped.gone i (mem_shield_iff.mpr bound), removed, shielded]
      simp

theorem Accounted.respaced {w t : Text} (kept : Accounted o s w) (r : Respaced false w t) :
    Accounted o s t := by
  obtain ⟨m, rfl, pristine, gone⟩ := kept
  obtain ⟨m', rfl, pristine', same⟩ := pristine.respaced r
  exact ⟨m', rfl, pristine', fun i bound => by rw [same, gone i bound]⟩

theorem accounted_tidy (free : '_' ∉ s) (o : Options) : Accounted o s (tidy o (shield s).text) := by
  rw [tidy]
  split
  · exact collapseBlanks_induction (fun _ _ r kept => Accounted.respaced kept r) (accounted_removed free o)
  · exact accounted_removed free o

/-- In a text without underscores each placeholder stays whole and is there once, or it goes with a
    comment that is removed; and contents are put in place of all that are left as if at once. -/
theorem minify_eq_substitution (free : '_' ∉ s) (o : Options) :
    (∀ i < (shield s).contents.length,
      (∀ a b a' b', tidy o (shield s).text = a ++ (placeholder i ++ b) →
        tidy o (shield s).text = a' ++ (placeholder i ++ b') → a = a') ∧
      (¬ placeholder i <:+: tidy o (shield s).text ↔
        o.removeComments = true ∧ Spanned o.keepConditionalComments i (shield s).text)) ∧
    minify o s = trim ((placeholderPattern (shield s).contents.length).replace
      (contentAt (shield s).contents) (tidy o (shield s).text)) ∧
    '_' ∉ minify o s := by
  obtain ⟨m, tidied, pristine, gone⟩ := accounted_tidy free o
  have restored : restore (shield s).contents (tidy o (shield s).text) =
      spell (contentAt (shield s).contents) m := by
    rw [tidied, (pristine.unforged (free_contents free)).restore]
  refine ⟨fun i bound => ⟨fun a b a' b' first second => ?_, ?_⟩, ?_, fun left => ?_⟩
  · rw [tidied] at first second
    exact pristine.once bound first second
  · rw [tidied, pristine.infix_iff bound, gone i bound]
  · rw [minify, restored, tidied, pristine.replace_placeholders]
  · rw [minify, restored] at left
    exact pristine.free_spell (free_contents free) ((trim_sublist _).subset left)

theorem minify_eq_substitution_comment :
    '_' ∉ "<pre> a </pre> <!-- <pre>b</pre> -->".toList ∧
      ¬ placeholder 1 <:+: tidy {} (shield "<pre> a </pre> <!-- <pre>b</pre> -->".toList).text ∧
      minify {} "<pre> a </pre> <!-- <pre>b</pre> -->".toList = "<pre> a </pre>".toList := by
  have free : '_' ∉ "<pre> a </pre> <!-- <pre>b</pre> -->".toList := by decide
  obtain ⟨each, whole, _⟩ := minify_eq_substitution free {}
  have spanned : Spanned true 1 (shield "<pre> a </pre> <!-- <pre>b</pre> -->".toList).text :=
    ⟨⟨" <pre>__PRESERVED_1__</pre> ".toList⟩, by decide +kernel, rfl, by decide +kernel⟩
  exact ⟨free, (each 1 (by decide +kernel)).2.mpr ⟨rfl, spanned⟩, whole.trans (by decide +kernel)⟩

end HtmlReflow
