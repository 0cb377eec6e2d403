import HtmlReflow.Text.Basic

namespace HtmlReflow

/-- A sequence of bytes. -/
abbrev Bytes := List UInt8

/-- The replacement character, which stands for bytes that spell no character. -/
def replacement : Char := '\uFFFD'

/-- What one reading gives: characters, the state that follows, and the bytes that are left. -/
structure Reading (σ : Type) where
  chars : Text
  state : σ
  rest : Bytes

/-- Reads bytes from the front, a character or a malformed sequence at a time. Every reading takes the
    first byte; a malformed sequence leaves behind it what may start anew. -/
structure Decoder (σ : Type) where
  start : σ
  next : σ → UInt8 → Bytes → Reading σ
  rest_le : ∀ s b bytes, (next s b bytes).rest.length ≤ bytes.length

namespace Decoder

variable {σ : Type} (d : Decoder σ)

/-- Decodes from `state` on, with the characters so far in `done`, last first. -/
def runFrom (state : σ) (done : Text) : Bytes → Text
  | [] => done.reverse
  | b :: bytes =>
    runFrom (d.next state b bytes).state ((d.next state b bytes).chars.reverse ++ done)
      (d.next state b bytes).rest
termination_by bytes => bytes.length
decreasing_by exact Nat.lt_succ_of_le (d.rest_le state b bytes)

def run (state : σ) (bytes : Bytes) : Text := d.runFrom state [] bytes

def decode (bytes : Bytes) : Text := d.run d.start bytes

theorem runFrom_nil (state : σ) (done : Text) : d.runFrom state done [] = done.reverse := by
  rw [runFrom]

theorem runFrom_cons (state : σ) (done : Text) (b : UInt8) (bytes : Bytes) :
    d.runFrom state done (b :: bytes) =
      d.runFrom (d.next state b bytes).state ((d.next state b bytes).chars.reverse ++ done)
        (d.next state b bytes).rest := by
  rw [runFrom]

theorem runFrom_eq (state : σ) (done : Text) (bytes : Bytes) :
    d.runFrom state done bytes = done.reverse ++ d.run state bytes := by
  unfold run
  generalize hn : bytes.length = n
  induction n using Nat.strongRecOn generalizing state done bytes with
  | ind n ih =>
    cases bytes with
    | nil => simp [runFrom_nil]
    | cons b bytes =>
      have shorter : (d.next state b bytes).rest.length < n := by
        have := d.rest_le state b bytes
        simp only [List.length_cons] at hn
        omega
      rw [runFrom_cons, runFrom_cons, ih _ shorter _ (_ ++ done) _ rfl, ih _ shorter _ (_ ++ []) _ rfl]
      simp

@[simp] theorem run_nil (state : σ) : d.run state [] = [] := d.runFrom_nil state []

theorem run_cons (state : σ) (b : UInt8) (bytes : Bytes) :
    d.run state (b :: bytes) =
      (d.next state b bytes).chars ++
        d.run (d.next state b bytes).state (d.next state b bytes).rest := by
  conv => lhs; unfold run
  rw [runFrom_cons, runFrom_eq]
  simp

/-- The decoder of a reader that keeps nothing from one reading to the next. -/
def stateless (read : UInt8 → Bytes → Text × Bytes)
    (rest_le : ∀ b bytes, (read b bytes).2.length ≤ bytes.length) : Decoder Unit where
  start := ()
  next _ b bytes := ⟨(read b bytes).1, (), (read b bytes).2⟩
  rest_le _ b bytes := rest_le b bytes

end Decoder
end HtmlReflow
