import HtmlReflow.Proofs.Search
import HtmlReflow.Stats
import Mathlib.Data.List.Induction

namespace HtmlReflow

/-- A natural number as JSON writes it: in decimal, without a leading zero. -/
structure Numeral (n : Nat) (digits : Text) : Prop where
  nonempty : digits ≠ []
  digit : ∀ c ∈ digits, c.isDigit = true
  lead : digits.head? = some '0' → digits = ['0']
  value : Nat.ofDigitChars 10 digits 0 = n

def jsonMember (name value : Text) : Text := '"' :: (name ++ '"' :: ':' :: value)

/-- The members of a JSON object, each a name and a number, as they stand between its braces. -/
inductive Members : List (Text × Nat) → Text → Prop where
  | last {name digits : Text} {n : Nat} : Numeral n digits → Members [(name, n)] (jsonMember name digits)
  | next {fields : List (Text × Nat)} {name digits text : Text} {n : Nat} : Numeral n digits →
      Members fields text → Members ((name, n) :: fields) (jsonMember name digits ++ ',' :: text)

variable {n m : Nat} {a b : Text} {c : Char}

theorem digitChar_of_isDigit (digit : c.isDigit = true) :
    c.toNat - '0'.toNat < 10 ∧ Nat.digitChar (c.toNat - '0'.toNat) = c := by
  simp only [Char.isDigit, Bool.and_eq_true, decide_eq_true_eq, UInt32.le_iff_toNat_le] at digit
  have low : 48 ≤ c.toNat := digit.1
  have high : c.toNat ≤ 57 := digit.2
  have zero : '0'.toNat = 48 := rfl
  refine ⟨by omega, Char.toNat_inj.mp ?_⟩
  rw [zero, Nat.toNat_digitChar_of_lt_ten (by omega)]
  omega

theorem eq_zero_of_lead (n : Nat) (lead : (Nat.toDigits 10 n).head? = some '0') : n = 0 := by
  induction n using Nat.strongRecOn with
  | ind n ih =>
    by_cases small : n < 10
    · rw [Nat.toDigits_of_lt_base small, List.head?_cons, Option.some.injEq] at lead
      have place := congrArg Char.toNat lead
      rw [Nat.toNat_digitChar_of_lt_ten small] at place
      exact Nat.add_left_cancel place
    · rw [Nat.toDigits_eq_if (by decide), if_neg small,
        List.head?_append_of_ne_nil _ Nat.toDigits_ne_nil] at lead
      have := ih (n / 10) (by omega) lead
      omega

theorem numeral_toDigits (n : Nat) : Numeral n (Nat.toDigits 10 n) where
  nonempty := Nat.toDigits_ne_nil
  digit := fun _ member => Nat.isDigit_of_mem_toDigits (by decide) (by decide) member
  lead := fun lead => by rw [eq_zero_of_lead n lead]; rfl
  value := Nat.ofDigitChars_ten_toDigits

/-- Digits without a leading zero are those that their value is written with. -/
theorem Numeral.eq_toDigits {digits : Text} (numeral : Numeral n digits) : digits = Nat.toDigits 10 n := by
  -- The last digit is the remainder, so the induction takes it off the end.
  induction digits using List.reverseRecOn generalizing n with
  | nil => exact absurd rfl numeral.nonempty
  | append_singleton front c ih =>
    obtain ⟨small, same⟩ :=
      digitChar_of_isDigit (numeral.digit c (List.mem_append_right _ List.mem_cons_self))
    have value := numeral.value
    rw [Nat.ofDigitChars_append, Nat.ofDigitChars_cons, Nat.ofDigitChars_nil] at value
    cases front with
    | nil =>
      rw [Nat.ofDigitChars_nil, Nat.mul_zero, Nat.zero_add] at value
      rw [← value, Nat.toDigits_of_lt_base small, same, List.nil_append]
    | cons d front =>
      have lead : d ≠ '0' := by
        rintro rfl
        have lone := numeral.lead rfl
        simp at lone
      have shorter : Numeral (Nat.ofDigitChars 10 (d :: front) 0) (d :: front) :=
        { nonempty := List.cons_ne_nil d front
          digit := fun c member => numeral.digit c (List.mem_append_left _ member)
          lead := fun zero => absurd (Option.some.inj zero) lead
          value := rfl }
      have digits := ih shorter
      have positive : Nat.ofDigitChars 10 (d :: front) 0 ≠ 0 := by
        intro zero
        rw [zero] at digits
        exact lead (List.cons.inj digits).1
      rw [Nat.toDigits_eq_if (by decide), if_neg (by omega), ← value]
      have quotient : (10 * Nat.ofDigitChars 10 (d :: front) 0 + (c.toNat - '0'.toNat)) / 10 =
          Nat.ofDigitChars 10 (d :: front) 0 := by omega
      have remainder : (10 * Nat.ofDigitChars 10 (d :: front) 0 + (c.toNat - '0'.toNat)) % 10 =
          c.toNat - '0'.toNat := by omega
      rw [quotient, remainder, same, ← digits]

theorem Numeral.comma_free {digits : Text} (numeral : Numeral n digits) : ',' ∉ digits :=
  fun member => absurd (numeral.digit ',' member) (by decide)

theorem Members.unique {fields : List (Text × Nat)} (first : Members fields a) (second : Members fields b) :
    a = b := by
  induction first generalizing b with
  | last numeral =>
    cases second with
    | last other => rw [numeral.eq_toDigits, other.eq_toDigits]
    | next _ rest => cases rest
  | next numeral rest ih =>
    cases second with
    | last _ => cases rest
    | next other rest' => rw [numeral.eq_toDigits, other.eq_toDigits, ih rest']

/-- The numbers read back from the text, for names that are known. -/
theorem Members.inj {fields others : List (Text × Nat)} (first : Members fields a)
    (second : Members others b) (names : fields.map Prod.fst = others.map Prod.fst) (same : a = b) :
    fields = others := by
  induction first generalizing others b with
  | last numeral =>
    cases second with
    | last other =>
      obtain rfl := (List.cons.inj names).1
      simp only [jsonMember, List.cons.injEq, true_and, List.append_cancel_left_eq] at same
      rw [← numeral.value, ← other.value, same]
    | next _ rest => cases rest <;> simp at names
  | next numeral rest ih =>
    cases second with
    | last other => cases rest <;> simp at names
    | next other rest' =>
      simp only [List.map_cons, List.cons.injEq] at names
      obtain ⟨rfl, names⟩ := names
      simp only [jsonMember, List.append_assoc, List.cons_append, List.cons.injEq, true_and,
        List.append_cancel_left_eq] at same
      obtain ⟨rfl, behind⟩ := append_cons_inj_of_notMem_left numeral.comma_free other.comma_free same
      rw [← numeral.value, ← other.value, ih rest' names behind]

namespace Stats

def members (s : Stats) : List (Text × Nat) :=
  [("input_bytes".toList, s.inputBytes), ("output_bytes".toList, s.outputBytes),
    ("preserved_blocks".toList, s.preservedBlocks)]

/-- A text is the JSON object of the sizes, in the order of their declaration and without blanks. -/
def Json (s : Stats) (text : Text) : Prop :=
  ∃ inside, Members s.members inside ∧ text = '\x7b' :: (inside ++ ['\x7d'])

theorem json_report (s : Stats) : s.Json s.report := by
  -- The literals are kept away from `simp`, which would take them apart.
  have join {x y z p q r a b c : Text} (first : x = '\x7b' :: jsonMember p [])
      (second : y = ',' :: jsonMember q []) (third : z = ',' :: jsonMember r []) :
      x ++ a ++ y ++ b ++ z ++ c ++ ['\x7d'] =
        '\x7b' :: (jsonMember p a ++ ',' :: (jsonMember q b ++ ',' :: jsonMember r c) ++ ['\x7d']) := by
    simp [first, second, third, jsonMember]
  exact ⟨_, .next (numeral_toDigits _) (.next (numeral_toDigits _) (.last (numeral_toDigits _))),
    join (by decide +kernel) (by decide +kernel) (by decide +kernel)⟩

/-- The report is the JSON object of the sizes, and no other text is. -/
theorem json_iff {s : Stats} {text : Text} : s.Json text ↔ text = s.report := by
  constructor
  · rintro ⟨inside, members, rfl⟩
    obtain ⟨written, others, same⟩ := s.json_report
    rw [same, members.unique others]
  · rintro rfl
    exact s.json_report

/-- The sizes read back from the report. -/
theorem report_inj {s s' : Stats} (same : s.report = s'.report) : s = s' := by
  obtain ⟨inside, members, written⟩ := s.json_report
  obtain ⟨inside', members', written'⟩ := s'.json_report
  rw [written, written'] at same
  obtain rfl := List.append_cancel_right (List.cons.inj same).2
  have fields := members.inj members' rfl rfl
  simp only [Stats.members, List.cons.injEq, Prod.mk.injEq, true_and, and_true] at fields
  obtain ⟨_, _, _⟩ := s
  obtain ⟨_, _, _⟩ := s'
  simpa using fields

end Stats
end HtmlReflow
