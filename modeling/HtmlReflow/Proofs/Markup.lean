import HtmlReflow.Proofs.Search
import Mathlib.Data.List.Basic

namespace HtmlReflow

variable {s t : Text}

/-- Without angle brackets. -/
def Plain (t : Text) : Prop := '<' ∉ t ∧ '>' ∉ t

theorem plain_nil : Plain [] := ⟨List.not_mem_nil, List.not_mem_nil⟩

theorem plain_append : Plain (s ++ t) ↔ Plain s ∧ Plain t := by
  simp only [Plain, List.mem_append, not_or]
  constructor
  · intro h
    exact ⟨⟨h.1.1, h.2.1⟩, ⟨h.1.2, h.2.2⟩⟩
  · intro h
    exact ⟨⟨h.1.1, h.2.1⟩, ⟨h.1.2, h.2.2⟩⟩

theorem Plain.sublist (plain : Plain t) (part : s.Sublist t) : Plain s :=
  ⟨fun member => plain.1 (part.subset member), fun member => plain.2 (part.subset member)⟩

theorem plain_of_blank (blank : ∀ c ∈ t, isBlank c = true) : Plain t := by
  constructor
  · intro member
    have impossible := blank _ member
    cases impossible
  · intro member
    have impossible := blank _ member
    cases impossible

theorem Solid.plain (solid : Solid t) : Plain t := ⟨solid.left_free, solid.right_free⟩

def isAngle (c : Char) : Bool := c == '<' || c == '>'

theorem plain_iff : Plain t ↔ ∀ c ∈ t, ¬ isAngle c = true := by
  constructor
  · intro plain c member angle
    rcases Bool.or_eq_true_iff.mp angle with left | right
    · exact plain.1 (beq_iff_eq.mp left ▸ member)
    · exact plain.2 (beq_iff_eq.mp right ▸ member)
  · intro none
    exact ⟨fun member => none _ member rfl, fun member => none _ member rfl⟩

theorem angles_of_plain (plain : Plain t) : t.filter isAngle = [] :=
  List.filter_eq_nil_iff.mpr (plain_iff.mp plain)

/-- Each `<` is followed by a `>` before the next `<`, and each `>` closes a `<`. -/
def Alternating (s : Text) : Prop :=
  ∃ n, s.filter isAngle = (List.replicate n ['<', '>']).flatten

/-- A text cut at its angle brackets: a text, what stands between the first `<` and the first `>`, and
    so on up to the text behind the last `>`. -/
inductive Markup where
  | text (t : Text)
  | tag (t body : Text) (rest : Markup)

namespace Markup

variable {m : Markup}

def spell : Markup → Text
  | .text t => t
  | .tag t body m => t ++ '<' :: (body ++ '>' :: m.spell)

/-- All angle brackets are those between the parts. -/
def Sound : Markup → Prop
  | .text t => Plain t
  | .tag t body m => Plain t ∧ Plain body ∧ m.Sound

/-- What stands between the brackets, tag by tag. -/
def bodies : Markup → List Text
  | .text _ => []
  | .tag _ body m => body :: m.bodies

/-- Changes every text, given the bodies of the tags on its two sides, and every body. `left` is the body
    of a tag in front of the whole. -/
def rework (onText : Option Text → Option Text → Text → Text) (onBody : Text → Text)
    (left : Option Text) : Markup → Markup
  | .text t => .text (onText left none t)
  | .tag t body m => .tag (onText left (some body) t) (onBody body) (m.rework onText onBody (some body))

theorem rework_rework (f g : Option Text → Option Text → Text → Text) (f' g' : Text → Text)
    (left : Option Text) (m : Markup) :
    (m.rework f f' left).rework g g' (left.map f') =
      m.rework (fun l r t => g (l.map f') (r.map f') (f l r t)) (fun body => g' (f' body)) left := by
  induction m generalizing left with
  | text t => rfl
  | tag t body m ih =>
    have later := ih (some body)
    rw [Option.map_some] at later
    rw [rework, rework, rework, later]
    rfl

theorem Sound.rework {f : Option Text → Option Text → Text → Text} {g : Text → Text}
    (onText : ∀ l r t, Plain t → Plain (f l r t)) (onBody : ∀ t, Plain t → Plain (g t))
    (left : Option Text) (sound : m.Sound) : (m.rework f g left).Sound := by
  induction m generalizing left with
  | text t => exact onText _ _ _ sound
  | tag t body m ih => exact ⟨onText _ _ _ sound.1, onBody _ sound.2.1, ih _ sound.2.2⟩

theorem Sound.alternating (sound : m.Sound) : Alternating m.spell := by
  induction m with
  | text t => exact ⟨0, angles_of_plain sound⟩
  | tag t body m ih =>
    obtain ⟨n, counted⟩ := ih sound.2.2
    refine ⟨n + 1, ?_⟩
    rw [spell, List.filter_append, angles_of_plain sound.1, List.filter_cons_of_pos rfl,
      List.filter_append, angles_of_plain sound.2.1, List.filter_cons_of_pos rfl, counted,
      List.replicate_succ, List.flatten_cons]
    rfl

end Markup

theorem alternating_iff : Alternating s ↔ ∃ m : Markup, m.Sound ∧ m.spell = s := by
  constructor
  · intro alternating
    obtain ⟨n, counted⟩ := alternating
    induction n generalizing s with
    | zero => exact ⟨.text s, plain_iff.mpr (List.filter_eq_nil_iff.mp counted), rfl⟩
    | succ n ih =>
      rw [List.replicate_succ, List.flatten_cons] at counted
      obtain ⟨t, rest, rfl, plain, _, later⟩ := List.filter_eq_cons_iff.mp counted
      obtain ⟨body, rest, rfl, plain', _, last⟩ := List.filter_eq_cons_iff.mp later
      obtain ⟨m, sound, rfl⟩ := ih last
      exact ⟨.tag t body m, ⟨plain_iff.mpr plain, plain_iff.mpr plain', sound⟩, rfl⟩
  · intro given
    obtain ⟨m, sound, rfl⟩ := given
    exact sound.alternating

end HtmlReflow
