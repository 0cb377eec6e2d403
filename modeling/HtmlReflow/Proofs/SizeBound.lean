import HtmlReflow.Mode
import HtmlReflow.Proofs.Conservation
import HtmlReflow.Proofs.Substitution
import Mathlib.Data.List.Flatten

namespace HtmlReflow

open Marked

variable {s t name : Text} {angle : Bool} {o : Options} {c : Char} {m₁ m₂ : Marked}
  {f g : Nat → Text} {contents : List Text} {ps : List (Piece Block)} {bound : Nat}

theorem byteLength_eq_of_perm (same : s.Perm t) : byteLength s = byteLength t := by
  induction same with
  | nil => rfl
  | cons c _ ih => rw [byteLength_cons, byteLength_cons, ih]
  | swap c d s =>
    simp only [byteLength_cons]
    omega
  | trans _ _ first second => exact first.trans second

theorem byteLength_le_of_sublist (sub : s.Sublist t) : byteLength s ≤ byteLength t := by
  induction sub with
  | slnil => exact Nat.le_refl _
  | cons c _ ih =>
    rw [byteLength_cons]
    omega
  | cons_cons c _ ih =>
    rw [byteLength_cons, byteLength_cons]
    omega

theorem Respaced.byteLength_le (r : Respaced angle s t) : byteLength t ≤ byteLength s := by
  induction r with
  | done => exact Nat.le_refl _
  | keep c _ ih =>
    rw [byteLength_cons, byteLength_cons]
    omega
  | @space _ c _ _ _ _ ih =>
    -- No blank takes fewer bytes than the space in its place.
    have pos := c.utf8Size_pos
    have one : ' '.utf8Size = 1 := rfl
    rw [byteLength_cons, byteLength_cons, one]
    omega
  | drop _ _ _ ih =>
    rw [byteLength_cons]
    omega

theorem byteLength_tidy_le (kept : o.removeComments = false) (s : Text) :
    byteLength (tidy o s) ≤ byteLength s :=
  tidy_induction_of_kept (motive := fun t => byteLength t ≤ byteLength s) kept
    (fun _ _ r le => Nat.le_trans r.byteLength_le le) (Nat.le_refl _)

theorem byteLength_restore_le_of_kept (kept : o.removeComments = false) (s : Text) :
    byteLength (restore (shield s).contents (tidy o (shield s).text)) ≤ byteLength (respelling s) := by
  have exchanged := byteLength_eq_of_perm (perm_restore_tidy kept s)
  have tidied := byteLength_tidy_le kept (shield s).text
  rw [byteLength_append, byteLength_append] at exchanged
  omega

namespace Marked

theorem byteLength_spell (f : Nat → Text) (m : Marked) : byteLength (spell f m) =
    byteLength (spell (fun _ => []) m) + byteLength ((marks m).flatMap f) := by
  induction m with
  | nil => rfl
  | cons piece m ih =>
    cases piece with
    | plain c =>
      rw [spell_plain, spell_plain, marks_plain, byteLength_cons, byteLength_cons, ih]
      omega
    | found i =>
      rw [spell_found, spell_found, marks_found, List.nil_append, List.flatMap_cons,
        byteLength_append, byteLength_append, ih]
      omega

theorem byteLength_spell_le (same : marks m₁ = marks m₂)
    (le : byteLength (spell g m₁) ≤ byteLength (spell g m₂)) :
    byteLength (spell f m₁) ≤ byteLength (spell f m₂) := by
  rw [byteLength_spell, byteLength_spell g m₂, same] at le
  rw [byteLength_spell, byteLength_spell f m₂, same]
  omega

end Marked

/-- The placeholders in the text are marks, and it takes at most `bound` bytes once the contents are
    back at them. -/
def Weighing (contents : List Text) (bound : Nat) (w : Text) : Prop :=
  ∃ m, w = spell placeholder m ∧ Pristine contents.length m ∧
    byteLength (spell (contentAt contents) m) ≤ bound

theorem Weighing.respaced (weighing : Weighing contents bound s) (r : Respaced false s t) :
    Weighing contents bound t := by
  obtain ⟨m, rfl, pristine, le⟩ := weighing
  obtain ⟨m', rfl, pristine', same⟩ := pristine.respaced r
  exact ⟨m', rfl, pristine', Nat.le_trans (byteLength_spell_le same r.byteLength_le) le⟩

theorem Weighing.stripped (weighing : Weighing contents bound s) (keep : Bool) :
    Weighing contents bound (stripComments keep s) := by
  obtain ⟨m, rfl, pristine, le⟩ := weighing
  obtain ⟨m', stripped⟩ := pristine.exists_stripped keep
  exact ⟨m', stripped.text, pristine.sublist stripped.sub stripped.closed,
    Nat.le_trans (byteLength_le_of_sublist (stripped.sub.flatMap _)) le⟩

theorem Weighing.tidy (weighing : Weighing contents bound s) (o : Options) :
    Weighing contents bound (tidy o s) :=
  tidy_induction (fun _ weighing => Weighing.stripped weighing _)
    (fun _ _ r weighing => Weighing.respaced weighing r) weighing

theorem weighing_shield (free : '_' ∉ s) :
    Weighing (shield s).contents (byteLength (respelling s)) (shield s).text := by
  have spelt : spell (contentAt (shield s).contents) (marksFrom 0 (preservedPattern.pieces s)) =
      respelling s := by
    rw [respelling_eq]
    exact (marking_marksFrom rfl).spell_eq
  exact ⟨_, spell_placeholder_marksFrom.symm, pristine_shield free, by rw [spelt]⟩

theorem byteLength_restore_le_of_free (free : '_' ∉ s) (o : Options) :
    byteLength (restore (shield s).contents (tidy o (shield s).text)) ≤ byteLength (respelling s) := by
  obtain ⟨m, tidied, pristine, le⟩ := (weighing_shield free).tidy o
  rwa [tidied, (pristine.unforged (free_contents free)).restore]

/-- It folds to `s` and takes a byte more. -/
def longS : Char := '\u017F'

theorem utf8Size_of_folded {e : Verbatim} (folded : foldCase c ∈ e.name) (other : c ≠ longS) :
    c.utf8Size = 1 := by
  have letters : e.name.all (fun d => d.utf8Size == 1) = true := by cases e <;> decide
  unfold foldCase at folded
  rw [if_neg (show ¬ c = '\u017F' from other)] at folded
  split at folded
  · exact absurd folded (by cases e <;> decide)
  · unfold Char.toLower at folded
    split at folded
    · rename_i capital
      exact Char.utf8Size_eq_one_iff.mpr (UInt32.le_trans capital.2 (by decide))
    · exact beq_iff_eq.mp (List.all_eq_true.mp letters c folded)

theorem byteLength_of_folded {e : Verbatim} (folded : ∀ c ∈ name, foldCase c ∈ e.name) :
    byteLength name = name.length + name.count longS := by
  induction name with
  | nil => rfl
  | cons c name ih =>
    have later := ih fun d member => folded d (List.mem_cons_of_mem c member)
    rw [byteLength_cons, later, List.length_cons, List.count_cons]
    by_cases long : c = longS
    · have two : longS.utf8Size = 2 := by decide
      rw [long, two, beq_self_eq_true, if_pos rfl]
      omega
    · have one : c.utf8Size = 1 := utf8Size_of_folded (folded c List.mem_cons_self) long
      rw [one, beq_eq_false_iff_ne.mpr long, if_neg Bool.false_ne_true]
      omega

theorem byteLength_name {e : Verbatim} (folded : name.map foldCase = e.name) :
    byteLength name = e.name.length + name.count longS := by
  have letters : ∀ c ∈ name, foldCase c ∈ e.name := by
    intro c member
    rw [← folded]
    exact List.mem_map_of_mem member
  rw [byteLength_of_folded letters, ← folded, List.length_map]

theorem count_longS_le_one {e : Verbatim} (folded : name.map foldCase = e.name) :
    name.count longS ≤ 1 := by
  have moved : name.count longS ≤ (name.map foldCase).count (foldCase longS) :=
    List.count_le_count_map
  have once : e.name.count (foldCase longS) ≤ 1 := by cases e <;> decide
  rw [folded] at moved
  omega

theorem byteLength_respelt_le {b : Block} (proper : b.Proper) {k : Nat}
    (few : b.name.count longS ≤ k) : byteLength b.respelt.text ≤ byteLength b.text + k := by
  have name := byteLength_name proper.named
  have closing := byteLength_name proper.closed
  simp only [Block.text, Block.respelt, Block.openingTag, Block.closingTag, Block.closingTagOf,
    byteLength_append, byteLength_cons]
  omega

theorem byteLength_respell_le {k : Nat} (proper : ∀ b, .found b ∈ ps → b.Proper)
    (few : ∀ b, .found b ∈ ps → b.name.count longS ≤ k) :
    byteLength (spellPieces (respell ps)) ≤ byteLength (spellPieces ps) + k * (blocksOf ps).length := by
  induction ps with
  | nil => exact Nat.zero_le _
  | cons p ps ih =>
    have later := ih (fun b member => proper b (List.mem_cons_of_mem p member))
      (fun b member => few b (List.mem_cons_of_mem p member))
    cases p with
    | plain c =>
      rw [respell_plain, spellPieces_plain, spellPieces_plain, blocksOf_plain, byteLength_cons,
        byteLength_cons]
      omega
    | found b =>
      have here := byteLength_respelt_le (proper b List.mem_cons_self) (few b List.mem_cons_self)
      rw [respell_found, spellPieces_found, spellPieces_found, blocksOf_found, byteLength_append,
        byteLength_append, List.length_cons, Nat.mul_succ]
      omega

theorem byteLength_respelling_le {k : Nat}
    (few : ∀ b, .found b ∈ preservedPattern.pieces s → b.name.count longS ≤ k) :
    byteLength (respelling s) ≤ byteLength s + k * preservedBlocks s := by
  have bound := byteLength_respell_le (scanned_pieces s).proper few
  rwa [spellPieces_pieces, ← respelling_eq, ← contents_length] at bound

theorem byteLength_respelling_le_add (s : Text) :
    byteLength (respelling s) ≤ byteLength s + preservedBlocks s := by
  have once : ∀ b, .found b ∈ preservedPattern.pieces s → b.name.count longS ≤ 1 := by
    intro b member
    exact count_longS_le_one ((scanned_pieces s).proper b member).named
  have bound := byteLength_respelling_le once
  rwa [Nat.one_mul] at bound

theorem byteLength_respelling_le_of_notMem (absent : longS ∉ s) :
    byteLength (respelling s) ≤ byteLength s := by
  have none : ∀ b, .found b ∈ preservedPattern.pieces s → b.name.count longS ≤ 0 := by
    intro b member
    have part : b.text <:+: s := preservedPattern.text_infix_of_mem member
    have inside : b.name ⊆ b.text := by
      rw [Block.text, Block.openingTag]
      exact fun c member => by simp [member]
    have zero : b.name.count longS = 0 :=
      List.count_eq_zero.mpr fun member => absent (part.subset (inside member))
    exact Nat.le_of_eq zero
  have bound := byteLength_respelling_le none
  rwa [Nat.zero_mul] at bound

theorem byteLength_minify_le (given : o.removeComments = false ∨ '_' ∉ s) :
    byteLength (minify o s) ≤ byteLength (respelling s) := by
  have trimmed : byteLength (minify o s) ≤
      byteLength (restore (shield s).contents (tidy o (shield s).text)) :=
    byteLength_le_of_sublist (trim_sublist _)
  rcases given with kept | free
  · exact Nat.le_trans trimmed (byteLength_restore_le_of_kept kept s)
  · exact Nat.le_trans trimmed (byteLength_restore_le_of_free free o)

/-- Minifying makes a text longer by no more than one byte for each of its blocks, and not at all
    where no long s is there to be copied into a closing tag. -/
theorem outputBytes_le (given : o.removeComments = false ∨ '_' ∉ s) :
    (Mode.minify.apply o s).2.outputBytes ≤
        (Mode.minify.apply o s).2.inputBytes + (Mode.minify.apply o s).2.preservedBlocks ∧
      (longS ∉ s → (Mode.minify.apply o s).2.outputBytes ≤ (Mode.minify.apply o s).2.inputBytes) := by
  have shrunk := byteLength_minify_le given
  constructor
  · exact Nat.le_trans shrunk (byteLength_respelling_le_add s)
  · intro absent
    exact Nat.le_trans shrunk (byteLength_respelling_le_of_notMem absent)

theorem outputBytes_le_long_s :
    byteLength (minify {} "<\u017Ftyle></style>".toList) = byteLength "<\u017Ftyle></style>".toList + 1 ∧
      byteLength (minify {} "<\u017Ftyle></style>".toList) ≤
        byteLength "<\u017Ftyle></style>".toList + preservedBlocks "<\u017Ftyle></style>".toList ∧
      byteLength (minify {} "<pre></PRE> ".toList) ≤ byteLength "<pre></PRE> ".toList := by
  have long : '_' ∉ "<\u017Ftyle></style>".toList := by decide
  have short : '_' ∉ "<pre></PRE> ".toList := by decide
  have absent : longS ∉ "<pre></PRE> ".toList := by decide
  exact ⟨by decide +kernel, (outputBytes_le (o := {}) (.inr long)).1,
    (outputBytes_le (o := {}) (.inr short)).2 absent⟩

end HtmlReflow
