import HtmlReflow.Proofs.BlockGrammar
import HtmlReflow.Proofs.Trim

namespace HtmlReflow

open Block (Opens)

def spellPieces (ps : List (Piece Block)) : Text := ps.flatMap (Piece.render Block.text)

/-- Pieces that a scan of what they spell gives back. -/
def Scanned (ps : List (Piece Block)) : Prop := preservedPattern.pieces (spellPieces ps) = ps

variable {ps qs : List (Piece Block)} {b : Block} {c : Char} {s t : Text}

@[simp] theorem spellPieces_nil : spellPieces [] = [] := rfl

@[simp] theorem spellPieces_plain : spellPieces (.plain c :: ps) = c :: spellPieces ps := rfl

@[simp] theorem spellPieces_found : spellPieces (.found b :: ps) = b.text ++ spellPieces ps := rfl

theorem spellPieces_append : spellPieces (ps ++ qs) = spellPieces ps ++ spellPieces qs :=
  List.flatMap_append

@[simp] theorem blocksOf_plain : blocksOf (.plain c :: ps) = blocksOf ps := rfl

@[simp] theorem blocksOf_found : blocksOf (.found b :: ps) = b :: blocksOf ps := rfl

theorem spellPieces_pieces (s : Text) : spellPieces (preservedPattern.pieces s) = s :=
  preservedPattern.replace_text s

theorem scanned_pieces (s : Text) : Scanned (preservedPattern.pieces s) := by
  rw [Scanned, spellPieces_pieces]

@[simp] theorem scanned_nil : Scanned [] := preservedPattern.pieces_nil

theorem scanned_plain_iff :
    Scanned (.plain c :: ps) ↔ preservedPattern.front? (c :: spellPieces ps) = none ∧ Scanned ps := by
  unfold Scanned
  rw [spellPieces_plain]
  cases front : preservedPattern.front? (c :: spellPieces ps) with
  | none => simp [preservedPattern.pieces_cons_of_none front]
  | some x =>
    obtain ⟨b, rest⟩ := x
    simp [preservedPattern.pieces_of_some front]

theorem mem_preserved (e : Verbatim) : e ∈ [Verbatim.pre, .script, .style] := by
  cases e <;> decide

theorem scanned_found_iff : Scanned (.found b :: ps) ↔ b.Proper ∧ Scanned ps := by
  unfold Scanned
  rw [spellPieces_found]
  constructor
  · intro scanned
    cases front : preservedPattern.front? (b.text ++ spellPieces ps) with
    | none =>
      obtain ⟨tail, same⟩ : ∃ tail, b.text ++ spellPieces ps = '<' :: tail := ⟨_, rfl⟩
      rw [same] at front scanned
      rw [preservedPattern.pieces_cons_of_none front] at scanned
      cases scanned
    | some x =>
      obtain ⟨b', rest⟩ := x
      rw [preservedPattern.pieces_of_some front] at scanned
      obtain ⟨same, later⟩ := List.cons.inj scanned
      cases same
      have written := preservedPattern.text_append front
      rw [List.append_cancel_left written] at later
      exact ⟨(Block.proper_of_front? front).1, later⟩
  · intro given
    obtain ⟨proper, scanned⟩ := given
    rw [preservedPattern.pieces_of_some (proper.front? (mem_preserved b.element)), scanned]

/-- A block starts at a `<` behind which one of the elements opens and is closed. -/
theorem preserved_front?_eq_none_iff :
    preservedPattern.front? (c :: s) = none ↔ (c = '<' → ∀ e, ¬ Opens e s) := by
  show List.findSome? (Block.frontOf? · (c :: s)) [.pre, .script, .style] = none ↔ _
  rw [List.findSome?_eq_none_iff]
  constructor
  · rintro none rfl e
    exact Block.frontOf?_eq_none_iff.mp (none e (mem_preserved e))
  · intro closed e _
    by_cases angle : c = '<'
    · subst angle
      exact Block.frontOf?_eq_none_iff.mpr (closed rfl e)
    · unfold Block.frontOf?
      split
      · rename_i same
        exact absurd (List.cons.inj same).1 angle
      · rfl

theorem Scanned.proper (scanned : Scanned ps) : ∀ b, .found b ∈ ps → b.Proper := by
  induction ps with
  | nil => simp
  | cons p ps ih =>
    intro b member
    cases p with
    | plain c => exact ih (scanned_plain_iff.mp scanned).2 b (by simpa using member)
    | found b' =>
      obtain ⟨proper, scanned⟩ := scanned_found_iff.mp scanned
      rcases List.mem_cons.mp member with same | member
      · cases same; exact proper
      · exact ih scanned b member

theorem pieces_cons_of_blank (blank : isBlank c = true) :
    preservedPattern.pieces (c :: s) = .plain c :: preservedPattern.pieces s := by
  refine preservedPattern.pieces_cons_of_none (preserved_front?_eq_none_iff.mpr fun same => ?_)
  rw [same] at blank
  cases blank

/-- Every block ends with a `>`, so a blank at the end of a text is in none. -/
theorem Scanned.append_blank (scanned : Scanned ps) (blank : isBlank c = true) :
    Scanned (ps ++ [.plain c]) := by
  induction ps with
  | nil =>
    show preservedPattern.pieces [c] = _
    rw [pieces_cons_of_blank blank, Pattern.pieces_nil]
    rfl
  | cons p ps ih =>
    cases p with
    | found b =>
      obtain ⟨proper, scanned⟩ := scanned_found_iff.mp scanned
      exact scanned_found_iff.mpr ⟨proper, ih scanned⟩
    | plain d =>
      obtain ⟨front, scanned⟩ := scanned_plain_iff.mp scanned
      refine scanned_plain_iff.mpr ⟨?_, ih scanned⟩
      rw [preserved_front?_eq_none_iff] at front ⊢
      intro angle e opens
      have split : spellPieces (ps ++ [.plain c]) = spellPieces ps ++ [c] := spellPieces_append
      exact front angle e ((split ▸ opens : Opens e (spellPieces ps ++ [c])).of_append_blank blank)

theorem pieces_append_blank (blank : isBlank c = true) (s : Text) :
    preservedPattern.pieces (s ++ [c]) = preservedPattern.pieces s ++ [.plain c] := by
  have scanned := (scanned_pieces s).append_blank blank
  rw [Scanned, spellPieces_append, spellPieces_pieces] at scanned
  exact scanned

theorem blocksOf_pieces_append_blank (blank : isBlank c = true) :
    blocksOf (preservedPattern.pieces (s ++ [c])) = blocksOf (preservedPattern.pieces s) := by
  rw [pieces_append_blank blank]
  simp [blocksOf]

theorem blocksOf_pieces_trim (s : Text) :
    blocksOf (preservedPattern.pieces (trim s)) = blocksOf (preservedPattern.pieces s) := by
  refine trim_induction
    (motive := fun t => blocksOf (preservedPattern.pieces t) = blocksOf (preservedPattern.pieces s))
    (fun c t blank same => ?_) (fun c t blank same => ?_) rfl
  · rw [pieces_cons_of_blank blank] at same
    exact same
  · rw [blocksOf_pieces_append_blank blank] at same
    exact same

def Block.respelt (b : Block) : Block := { b with closingName := b.name }

theorem Block.text_respelt (b : Block) : b.respelt.text = b.around b.content := rfl

theorem Block.around_append (b : Block) (inside rest : Text) : b.around inside ++ rest =
    '<' :: (b.name ++ b.attributes) ++ '>' :: (inside ++ (Block.closingTagOf b.name ++ rest)) := by
  simp [Block.around, Block.openingTag]

/-- Spells all closing tags as their opening tags. -/
def respell (ps : List (Piece Block)) : List (Piece Block) :=
  ps.map fun
    | .plain c => .plain c
    | .found b => .found b.respelt

def Respelt (ps : List (Piece Block)) : Prop := ∀ b, .found b ∈ ps → b.closingName = b.name

@[simp] theorem respell_nil : respell [] = [] := rfl

@[simp] theorem respell_plain : respell (.plain c :: ps) = .plain c :: respell ps := rfl

@[simp] theorem respell_found : respell (.found b :: ps) = .found b.respelt :: respell ps := rfl

@[simp] theorem respelt_plain : Respelt (.plain c :: ps) ↔ Respelt ps := by
  simp [Respelt]

@[simp] theorem respelt_found :
    Respelt (.found b :: ps) ↔ b.closingName = b.name ∧ Respelt ps := by
  simp [Respelt]

theorem respelt_respell (ps : List (Piece Block)) : Respelt (respell ps) := by
  induction ps with
  | nil => simp [Respelt]
  | cons p ps ih =>
    cases p with
    | plain c => exact respelt_plain.mpr ih
    | found b => exact respelt_found.mpr ⟨rfl, ih⟩

theorem Block.Proper.respelt (proper : b.Proper) : b.respelt.Proper :=
  ⟨proper.named, proper.named, proper.angle, proper.first⟩

theorem folded_respell (proper : ∀ b, .found b ∈ ps → b.Proper) :
    (spellPieces (respell ps)).map foldCase = (spellPieces ps).map foldCase := by
  induction ps with
  | nil => rfl
  | cons p ps ih =>
    have later := ih fun b member => proper b (List.mem_cons_of_mem p member)
    cases p with
    | plain c => simp [later]
    | found b =>
      have here := proper b List.mem_cons_self
      simp [Block.text, Block.openingTag, Block.closingTag, Block.closingTagOf, Block.respelt, later,
        here.named, here.closed]

/-- The spelling of closing tags does not matter to a scan. -/
theorem Scanned.respell (scanned : Scanned ps) : Scanned (respell ps) := by
  induction ps with
  | nil => exact scanned_nil
  | cons p ps ih =>
    cases p with
    | plain c =>
      obtain ⟨front, scanned⟩ := scanned_plain_iff.mp scanned
      refine scanned_plain_iff.mpr ⟨?_, ih scanned⟩
      rw [preserved_front?_eq_none_iff] at front ⊢
      intro angle e opens
      exact front angle e (opens.of_folded (folded_respell scanned.proper))
    | found b =>
      obtain ⟨proper, scanned⟩ := scanned_found_iff.mp scanned
      exact scanned_found_iff.mpr ⟨proper.respelt, ih scanned⟩

def Block.core (b : Block) : Verbatim × Text × Text := (b.element, b.name, b.content)

/-- The blocks among pieces, by what is kept of them. -/
def cores (ps : List (Piece Block)) : List (Verbatim × Text × Text) := (blocksOf ps).map Block.core

@[simp] theorem cores_plain : cores (.plain c :: ps) = cores ps := rfl

@[simp] theorem cores_found : cores (.found b :: ps) = b.core :: cores ps := rfl

theorem contents_cores (ps : List (Piece Block)) :
    (cores ps).map (·.2.2) = (blocksOf ps).map Block.content := by
  rw [cores, List.map_map]
  rfl

theorem cores_respell : cores (respell ps) = cores ps := by
  induction ps with
  | nil => rfl
  | cons p ps ih =>
    cases p with
    | plain c => exact ih
    | found b => exact congrArg (b.core :: ·) ih

end HtmlReflow
