import HtmlReflow.Proofs.BlockScan

namespace HtmlReflow

open Block (closingTagOf Opens)

variable {b : Block} {c : Char} {s u rest : Text} {ps : List (Piece Block)}

/-- A closing tag of `e` stands at the front of a text. -/
def Closes (e : Verbatim) (s : Text) : Prop :=
  ∃ name rest, s = closingTagOf name ++ rest ∧ name.map foldCase = e.name

/-- The name of one of the elements stands behind a `<` at the front of a text, and later a `>`, and
    still later a closing tag of that element. -/
def Begins (s : Text) : Prop := ∃ e behind, s = '<' :: behind ∧ Opens e behind

/-- The parts of a block that stands before `rest` are those the grammar gives: its opening tag ends
    with the first `>` behind its name, and its content with the first closing tag behind that. -/
structure Block.Stands (b : Block) (rest : Text) : Prop where
  named : b.name.map foldCase = b.element.name
  closed : b.closingName.map foldCase = b.element.name
  angle : '>' ∉ b.attributes
  first : ∀ a u, b.content = a ++ u → u ≠ [] → ¬ Closes b.element (u ++ (b.closingTag ++ rest))

theorem Block.stands_iff : b.Stands rest ↔ b.Proper := by
  constructor
  · intro stands
    refine ⟨stands.named, stands.closed, stands.angle, ?_⟩
    rintro name folded ⟨a, u, cut⟩
    refine stands.first a (closingTagOf name ++ u) (cut.symm.trans (List.append_assoc _ _ _)) ?_ ?_
    · simp [closingTagOf]
    · exact ⟨name, u ++ (b.closingTag ++ rest), List.append_assoc _ _ _, folded⟩
  · intro proper
    refine ⟨proper.named, proper.closed, proper.angle, ?_⟩
    rintro a u cut nonempty ⟨name, after, same, folded⟩
    have none : closing? b.element (u ++ (b.closingTag ++ rest)) = none :=
      proper.closing?_eq_none cut nonempty
    rw [Block.closing?_eq_some.mpr ⟨same, folded⟩] at none
    cases none

theorem preserved_front?_eq_none_iff_begins : preservedPattern.front? s = none ↔ ¬ Begins s := by
  cases s with
  | nil =>
    rw [preservedPattern.front?_nil]
    refine iff_of_true rfl ?_
    rintro ⟨_, _, same, _⟩
    cases same
  | cons c s =>
    rw [preserved_front?_eq_none_iff]
    constructor
    · rintro none ⟨e, behind, same, opens⟩
      obtain ⟨rfl, rfl⟩ := List.cons.inj same
      exact none rfl e opens
    · rintro absent rfl e opens
      exact absent ⟨e, s, rfl, opens⟩

/-- A text divided at blocks: what stands before the first, that block, and so on up to the text behind
    the last. -/
inductive Division where
  | text (t : Text)
  | block (before : Text) (b : Block) (later : Division)
  deriving DecidableEq, Repr

namespace Division

variable {m : Division} {next : Nat}

def spell : Division → Text
  | .text t => t
  | .block before b m => before ++ (b.text ++ m.spell)

def blocks : Division → List Block
  | .text _ => []
  | .block _ b m => b :: m.blocks

/-- The text with placeholders for the contents of its blocks, numbered from `next` on, and with closing
    tags that take the spelling of the opening tags. -/
def shielded (next : Nat) : Division → Text
  | .text t => t
  | .block before b m =>
    before ++ (b.openingTag ++ (placeholder next ++ (closingTagOf b.name ++ m.shielded (next + 1))))

/-- Each block stands at the least place behind the one before where a block can stand, and the text
    behind the last has no such place. -/
def Leftmost : Division → Prop
  | .text t => ∀ a u, t = a ++ u → ¬ Begins u
  | .block before b m =>
    (∀ a u, before = a ++ u → u ≠ [] → ¬ Begins (u ++ (b.text ++ m.spell))) ∧
      b.Stands m.spell ∧ m.Leftmost

def push (c : Char) : Division → Division
  | .text t => .text (c :: t)
  | .block before b m => .block (c :: before) b m

/-- The division that a scan gives. -/
def ofPieces : List (Piece Block) → Division
  | [] => .text []
  | .plain c :: ps => (ofPieces ps).push c
  | .found b :: ps => .block [] b (ofPieces ps)

theorem spell_push (c : Char) (m : Division) : (m.push c).spell = c :: m.spell := by
  cases m <;> rfl

theorem shielded_push (c : Char) (m : Division) : (m.push c).shielded next = c :: m.shielded next := by
  cases m <;> rfl

theorem blocks_push (c : Char) (m : Division) : (m.push c).blocks = m.blocks := by
  cases m <;> rfl

theorem spell_ofPieces (ps : List (Piece Block)) : (ofPieces ps).spell = spellPieces ps := by
  induction ps with
  | nil => rfl
  | cons p ps ih =>
    cases p with
    | plain c => rw [ofPieces, spell_push, ih, spellPieces_plain]
    | found b => rw [ofPieces, spell, ih, spellPieces_found, List.nil_append]

theorem shielded_ofPieces (next : Nat) (ps : List (Piece Block)) :
    (ofPieces ps).shielded next = shieldedFrom next [] ps := by
  induction ps generalizing next with
  | nil => rfl
  | cons p ps ih =>
    cases p with
    | plain c => rw [ofPieces, shielded_push, ih, shieldedFrom_plain]
    | found b =>
      rw [ofPieces, shielded, ih, shieldedFrom_found, Block.around, List.append_assoc,
        List.append_assoc, List.nil_append]

theorem blocks_ofPieces (ps : List (Piece Block)) : (ofPieces ps).blocks = blocksOf ps := by
  induction ps with
  | nil => rfl
  | cons p ps ih =>
    cases p with
    | plain c => rw [ofPieces, blocks_push, ih, blocksOf_plain]
    | found b => rw [ofPieces, blocks, ih, blocksOf_found]

theorem Leftmost.push (leftmost : m.Leftmost) (absent : ¬ Begins (c :: m.spell)) :
    (m.push c).Leftmost := by
  cases m with
  | text t =>
    intro a u cut
    rcases List.cons_eq_append_iff.mp cut with ⟨_, rfl⟩ | ⟨a, _, cut⟩
    · exact absent
    · exact leftmost a u cut
  | block before b m =>
    obtain ⟨least, stands, later⟩ := leftmost
    refine ⟨fun a u cut nonempty => ?_, stands, later⟩
    rcases List.cons_eq_append_iff.mp cut with ⟨_, rfl⟩ | ⟨a, _, cut⟩
    · exact absent
    · exact least a u cut nonempty

theorem leftmost_ofPieces (scanned : Scanned ps) : (ofPieces ps).Leftmost := by
  induction ps with
  | nil =>
    intro a u cut
    rw [(List.append_eq_nil_iff.mp cut.symm).2]
    exact preserved_front?_eq_none_iff_begins.mp preservedPattern.front?_nil
  | cons p ps ih =>
    cases p with
    | plain c =>
      obtain ⟨front, later⟩ := scanned_plain_iff.mp scanned
      rw [← spell_ofPieces] at front
      exact (ih later).push (preserved_front?_eq_none_iff_begins.mp front)
    | found b =>
      obtain ⟨proper, later⟩ := scanned_found_iff.mp scanned
      refine ⟨fun a u cut nonempty => ?_, Block.stands_iff.mpr proper, ih later⟩
      exact absurd (List.append_eq_nil_iff.mp cut.symm).2 nonempty

theorem foldr_push_text (u t : Text) : u.foldr push (.text t) = .text (u ++ t) := by
  induction u with
  | nil => rfl
  | cons c u ih => rw [List.foldr_cons, ih]; rfl

theorem foldr_push_block (u before : Text) (b : Block) (m : Division) :
    u.foldr push (.block before b m) = .block (u ++ before) b m := by
  induction u with
  | nil => rfl
  | cons c u ih => rw [List.foldr_cons, ih]; rfl

theorem ofPieces_append (least : ∀ a v, u = a ++ v → v ≠ [] → ¬ Begins (v ++ s)) :
    ofPieces (preservedPattern.pieces (u ++ s)) = u.foldr push (ofPieces (preservedPattern.pieces s)) := by
  induction u with
  | nil => rfl
  | cons c u ih =>
    have front := preserved_front?_eq_none_iff_begins.mpr (least [] (c :: u) rfl (List.cons_ne_nil c u))
    rw [List.cons_append] at front ⊢
    rw [preservedPattern.pieces_cons_of_none front, ofPieces, List.foldr_cons,
      ih fun a v cut nonempty => least (c :: a) v (by rw [cut]; rfl) nonempty]

/-- There is one leftmost division of a text. -/
theorem Leftmost.ofPieces_spell (leftmost : m.Leftmost) :
    ofPieces (preservedPattern.pieces m.spell) = m := by
  induction m with
  | text t =>
    have passed : ofPieces (preservedPattern.pieces (t ++ [])) =
        t.foldr Division.push (ofPieces (preservedPattern.pieces [])) :=
      ofPieces_append fun a v cut _ => by
        rw [List.append_nil]
        exact leftmost a v cut
    rw [Pattern.pieces_nil, ofPieces, foldr_push_text, List.append_nil] at passed
    exact passed
  | block before b m ih =>
    obtain ⟨least, stands, later⟩ := leftmost
    have front : preservedPattern.front? (b.text ++ m.spell) = some (b, m.spell) :=
      (Block.stands_iff.mp stands).front? (mem_preserved b.element)
    rw [spell, ofPieces_append least, preservedPattern.pieces_of_some front, ofPieces, ih later,
      foldr_push_block, List.append_nil]

theorem Leftmost.proper (leftmost : m.Leftmost) : ∀ b ∈ m.blocks, b.Proper := by
  induction m with
  | text t => exact List.forall_mem_nil _
  | block before b m ih =>
    obtain ⟨_, stands, later⟩ := leftmost
    exact List.forall_mem_cons.mpr ⟨Block.stands_iff.mp stands, ih later⟩

end Division

/-- Lifting contents out of a text is a scan for the leftmost blocks: the one division at them gives the
    text with placeholders and the contents, in order. -/
theorem shield_eq_reference (s : Text) :
    ∃ m : Division, m.Leftmost ∧ m.spell = s ∧
      (∀ m' : Division, m'.Leftmost → m'.spell = s → m' = m) ∧
      (shield s).text = m.shielded 0 ∧ (shield s).contents = m.blocks.map Block.content ∧
      ∀ b ∈ m.blocks, ∀ name, name.map foldCase = b.element.name →
        ¬ closingTagOf name <:+: b.content := by
  have leftmost := Division.leftmost_ofPieces (scanned_pieces s)
  refine ⟨.ofPieces (preservedPattern.pieces s), leftmost, ?_, ?_, ?_, ?_, ?_⟩
  · rw [Division.spell_ofPieces, spellPieces_pieces]
  · rintro m' leftmost' rfl
    exact leftmost'.ofPieces_spell.symm
  · exact (Division.shielded_ofPieces 0 _).symm
  · rw [Division.blocks_ofPieces]
    rfl
  · intro b member
    exact (leftmost.proper b member).first

-- The `<pre>` is never closed, and the long s folds to an `s`.
example : shield "<pre><\u017Fcript>x</SCRIPT>".toList =
    ⟨"<pre><\u017Fcript>__PRESERVED_0__</\u017Fcript>".toList, [['x']]⟩ := by decide +kernel

end HtmlReflow
