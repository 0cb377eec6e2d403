import HtmlReflow.Markup.Block
import HtmlReflow.Minify.Placeholder

namespace HtmlReflow

/-- The blocks whose contents minifying leaves alone. -/
def preservedPattern : Pattern Block := Block.pattern [.pre, .script, .style]

/-- A block with `inside` as its content. Its closing tag takes the spelling of its opening tag. -/
def Block.around (b : Block) (inside : Text) : Text :=
  b.openingTag ++ (inside ++ Block.closingTagOf b.name)

/-- A text in which the contents of blocks may be replaced by placeholders, and those contents: entry
    `i` is what placeholder `i` stands for. -/
structure Shielded where
  text : Text
  contents : List Text
  deriving DecidableEq, Repr

def blocksOf (pieces : List (Piece Block)) : List Block :=
  pieces.filterMap fun
    | .plain _ => none
    | .found b => some b

/-- Writes pieces with placeholders for the contents of blocks, numbered from `next` on. What is
    written already is in `done`, last first. -/
def shieldedFrom (next : Nat) (done : List Text) : List (Piece Block) → Text
  | [] => done.reverse.flatten
  | .plain c :: pieces => shieldedFrom next ([c] :: done) pieces
  | .found b :: pieces => shieldedFrom (next + 1) (b.around (placeholder next) :: done) pieces

theorem shieldedFrom_eq (next : Nat) (done : List Text) (pieces : List (Piece Block)) :
    shieldedFrom next done pieces = done.reverse.flatten ++ shieldedFrom next [] pieces := by
  induction pieces generalizing next done with
  | nil => simp [shieldedFrom]
  | cons piece pieces ih =>
    cases piece with
    | plain c =>
      simp only [shieldedFrom]
      rw [ih next ([c] :: done), ih next [[c]]]
      simp
    | found b =>
      simp only [shieldedFrom]
      rw [ih _ (_ :: done), ih _ [b.around (placeholder next)]]
      simp

@[simp] theorem shieldedFrom_nil (next : Nat) : shieldedFrom next [] [] = [] := rfl

@[simp] theorem shieldedFrom_plain (next : Nat) (c : Char) (pieces : List (Piece Block)) :
    shieldedFrom next [] (.plain c :: pieces) = c :: shieldedFrom next [] pieces := by
  simp only [shieldedFrom]
  rw [shieldedFrom_eq]
  rfl

@[simp] theorem shieldedFrom_found (next : Nat) (b : Block) (pieces : List (Piece Block)) :
    shieldedFrom next [] (.found b :: pieces) =
      b.around (placeholder next) ++ shieldedFrom (next + 1) [] pieces := by
  simp only [shieldedFrom]
  rw [shieldedFrom_eq]
  simp

/-- Lifts the content of every block out of a text. -/
def shield (s : Text) : Shielded :=
  let pieces := preservedPattern.pieces s
  ⟨shieldedFrom 0 [] pieces, (blocksOf pieces).map Block.content⟩

/-- Puts `contents` back, the first of them for placeholder `next` and so on in order, each for the
    first occurrence of its placeholder in the text as it then is. A placeholder that is not there
    takes its content with it. -/
def restoreFrom (next : Nat) : List Text → Text → Text
  | [], s => s
  | content :: contents, s =>
    restoreFrom (next + 1) contents (replaceFirst (placeholder next) content s)

def restore (contents : List Text) (s : Text) : Text := restoreFrom 0 contents s

end HtmlReflow
