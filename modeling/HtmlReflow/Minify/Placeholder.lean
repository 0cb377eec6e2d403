import HtmlReflow.Text.Basic

namespace HtmlReflow

/-- What every placeholder starts with. -/
def placeholderStart : Text := ['_', '_', 'P', 'R', 'E', 'S', 'E', 'R', 'V', 'E', 'D', '_']

/-- The token that stands for the content of block `index` while the markup around it is worked on. -/
def placeholder (index : Nat) : Text := placeholderStart ++ (Nat.toDigits 10 index ++ ['_', '_'])

theorem placeholder_ne_nil (index : Nat) : placeholder index ≠ [] := by
  simp [placeholder, placeholderStart]

end HtmlReflow
