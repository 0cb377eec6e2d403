import HtmlReflow.Proofs.DeclaredLabel
import Mathlib.Data.List.TakeWhile

namespace HtmlReflow

namespace Declaration

variable {β : Type} {stops : Char → Bool} {read : Text → Option β} {b : β} {c : Char}
  {a o q r s t u v : Text} {name : Text}

theorem exists_of_furthest? (found : furthest? stops read s = some b) :
    ∃ u r, s = u ++ r ∧ (∀ d ∈ u, stops d = false) ∧ read r = some b := by
  induction s with
  | nil => exact ⟨[], [], rfl, by simp, found⟩
  | cons c s ih =>
    rw [furthest?] at found
    split at found
    · exact ⟨[], c :: s, rfl, by simp, found⟩
    · rename_i pass
      cases later : furthest? stops read s with
      | none =>
        rw [later] at found
        exact ⟨[], c :: s, rfl, by simp, found⟩
      | some b' =>
        rw [later] at found
        obtain rfl : b' = b := Option.some.inj found
        obtain ⟨u, r, rfl, free, here⟩ := ih later
        exact ⟨c :: u, r, rfl, List.forall_mem_cons.mpr ⟨Bool.eq_false_iff.mpr pass, free⟩, here⟩

theorem exists_of_furthestBehind?_cons (found : furthestBehind? stops read s = some b) :
    ∃ d z, s = d :: z ∧ stops d = false ∧ furthest? stops read z = some b := by
  cases s with
  | nil => cases found
  | cons d z =>
    rw [furthestBehind?] at found
    split at found
    · cases found
    · rename_i pass
      exact ⟨d, z, rfl, Bool.eq_false_iff.mpr pass, found⟩

theorem exists_of_furthestBehind? (found : furthestBehind? stops read s = some b) :
    ∃ u r, s = u ++ r ∧ u ≠ [] ∧ (∀ d ∈ u, stops d = false) ∧ read r = some b := by
  obtain ⟨d, z, rfl, pass, later⟩ := exists_of_furthestBehind?_cons found
  obtain ⟨u, r, rfl, free, here⟩ := exists_of_furthest? later
  exact ⟨d :: u, r, rfl, List.cons_ne_nil d u, List.forall_mem_cons.mpr ⟨pass, free⟩, here⟩

theorem furthest?_isSome (free : ∀ d ∈ u, stops d = false) (here : (read r).isSome = true) :
    (furthest? stops read (u ++ r)).isSome = true := by
  have front : ∃ b, furthest? stops read r = some b := by
    obtain ⟨b, here⟩ := Option.isSome_iff_exists.mp here
    cases r with
    | nil => exact ⟨b, here⟩
    | cons c r =>
      rw [furthest?, here]
      split
      · exact ⟨b, rfl⟩
      · cases furthest? stops read r with
        | none => exact ⟨b, rfl⟩
        | some b' => exact ⟨b', rfl⟩
  obtain ⟨b, front⟩ := front
  rw [furthest?_append free front]
  rfl

theorem furthestBehind?_append (nonempty : u ≠ []) (free : ∀ d ∈ u, stops d = false) :
    furthestBehind? stops read (u ++ r) = furthest? stops read (u.tail ++ r) := by
  obtain ⟨c, u, rfl⟩ := List.exists_cons_of_ne_nil nonempty
  rw [List.cons_append, furthestBehind?, if_neg (by simp [free c List.mem_cons_self]), List.tail_cons]

/-- An assignment up to its value: a name in any case and an equals sign with blanks around it. -/
inductive Assigns (name : Text) : Text → Prop
  | intro {word before behind : Text} (named : word.map foldCase = name)
      (blank : ∀ c ∈ before ++ behind, isBlank c = true) : Assigns name (word ++ (before ++ '=' :: behind))

theorem exists_of_assigned? (found : assigned? name s = some t) : ∃ a, Assigns name a ∧ s = a ++ t := by
  unfold assigned? at found
  split at found
  · cases found
  · rename_i word rest front
    obtain ⟨rfl, named⟩ := word?_eq_some.mp front
    split at found
    · rename_i later equals
      cases found
      refine ⟨word ++ (rest.takeWhile isBlank ++ '=' :: later.takeWhile isBlank), .intro named ?_, ?_⟩
      · intro c member
        rcases List.mem_append.mp member with member | member
        · exact List.mem_takeWhile_imp member
        · exact List.mem_takeWhile_imp member
      · simp [List.takeWhile_append_dropWhile, ← equals]
    · cases found

theorem assigned?_append (assigns : Assigns name a) (t : Text) :
    assigned? name (a ++ t) = some (t.dropWhile isBlank) := by
  obtain ⟨named, blank⟩ := assigns
  rename_i word before behind
  have front : word? name (word ++ (before ++ '=' :: behind) ++ t) =
      some (word, before ++ '=' :: (behind ++ t)) := word?_eq_some.mpr ⟨by simp, named⟩
  rw [assigned?, front]
  simp only
  rw [List.dropWhile_append_of_pos fun c member => blank c (List.mem_append_left _ member),
    List.dropWhile_cons_of_neg (by decide)]
  simp only
  rw [List.dropWhile_append_of_pos fun c member => blank c (List.mem_append_right _ member)]

theorem Assigns.notMem (assigns : Assigns name a) (foreign : foldCase c ∉ name) (solid : isBlank c = false)
    (other : c ≠ '=') : c ∉ a := by
  obtain ⟨named, blank⟩ := assigns
  intro member
  simp only [List.mem_append, List.mem_cons] at member
  rcases member with member | member | member | member
  · exact foreign (named ▸ List.mem_map_of_mem member)
  · rw [blank c (List.mem_append_left _ member)] at solid; cases solid
  · exact other member
  · rw [blank c (List.mem_append_right _ member)] at solid; cases solid

/-- Nothing, or one quote. -/
structure QuoteMark (q : Text) : Prop where
  single : q.length ≤ 1
  quote : ∀ c ∈ q, isQuote c = true

theorem QuoteMark.notMem (mark : QuoteMark q) (other : isQuote c = false) : c ∉ q := by
  intro member
  rw [mark.quote c member] at other
  cases other

theorem exists_of_skipQuote (s : Text) : ∃ q, QuoteMark q ∧ s = q ++ skipQuote s := by
  cases s with
  | nil => exact ⟨[], ⟨by simp, by simp⟩, rfl⟩
  | cons c s =>
    rw [skipQuote]
    split
    · rename_i quote
      exact ⟨[c], ⟨by simp, by simpa using quote⟩, rfl⟩
    · exact ⟨[], ⟨by simp, by simp⟩, rfl⟩

/-- A value: characters up to a quote, a blank or the end of the tag. -/
structure Value (v : Text) : Prop where
  nonempty : v ≠ []
  chars : ∀ c ∈ v, isValueChar c = true

theorem value_of_value? (found : value? s = some (v, r)) : s = v ++ r ∧ Value v := by
  unfold value? at found
  split at found
  · cases found
  · rename_i filled
    cases found
    exact ⟨List.takeWhile_append_dropWhile.symm, filled, fun c member => List.mem_takeWhile_imp member⟩

theorem value?_isSome (value : Value v) (r : Text) : (value? (v ++ r)).isSome = true := by
  unfold value?
  split
  · rename_i empty
    rw [List.takeWhile_append_of_pos value.chars] at empty
    exact absurd (List.append_eq_nil_iff.mp empty).1 value.nonempty
  · rfl

theorem Value.exists_cons (value : Value v) : ∃ c w, v = c :: w ∧ isQuote c = false ∧ isBlank c = false := by
  obtain ⟨c, w, rfl⟩ := List.exists_cons_of_ne_nil value.nonempty
  obtain ⟨unquoted, solid, _⟩ := value_cases (value.chars c List.mem_cons_self)
  exact ⟨c, w, rfl, unquoted, solid⟩

theorem QuoteMark.cases (mark : QuoteMark q) : q = [] ∨ ∃ d, q = [d] ∧ isQuote d = true := by
  rcases q with _ | ⟨d, q⟩
  · exact .inl rfl
  · have alone : q = [] := List.eq_nil_of_length_eq_zero (Nat.le_zero.mp (Nat.le_of_succ_le_succ mark.single))
    exact .inr ⟨d, by rw [alone], mark.quote d List.mem_cons_self⟩

theorem QuoteMark.skipQuote_append (mark : QuoteMark q) (unquoted : isQuote c = false) (s : Text) :
    skipQuote (q ++ c :: s) = c :: s := by
  rcases mark.cases with rfl | ⟨d, rfl, quote⟩
  · rw [List.nil_append, skipQuote, if_neg (by simp [unquoted])]
  · rw [List.singleton_append, skipQuote, if_pos quote]

theorem QuoteMark.dropWhile_append (mark : QuoteMark q) (solid : isBlank c = false) (s : Text) :
    (q ++ c :: s).dropWhile isBlank = q ++ c :: s := by
  rcases mark.cases with rfl | ⟨d, rfl, quote⟩
  · exact List.dropWhile_cons_of_neg (by simp [solid])
  · exact List.dropWhile_cons_of_neg (by simp [solid_of_quote quote])

/-! What stands in front of the value in each form of a declaration. -/

inductive OpensCharset : Text → Prop
  | intro {a q : Text} (assigns : Assigns charsetName a) (mark : QuoteMark q) : OpensCharset (a ++ q)

inductive OpensParameter : Text → Prop
  | intro {gap a : Text} (blank : ∀ c ∈ gap, isBlank c = true) (assigns : Assigns charsetName a) :
      OpensParameter (';' :: (gap ++ a))

inductive OpensContent : Text → Prop
  | intro {a q inner p : Text} (assigns : Assigns contentName a) (mark : QuoteMark q)
      (free : ∀ c ∈ inner, (isQuote c || closesTag c) = false) (opens : OpensParameter p) :
      OpensContent (a ++ (q ++ (inner ++ p)))

inductive OpensContentType : Text → Prop
  | intro {a q kind gap o : Text} (assigns : Assigns httpEquivName a) (mark : QuoteMark q)
      (named : kind.map foldCase = contentTypeName) (apart : gap ≠ [])
      (free : ∀ c ∈ gap, closesTag c = false) (opens : OpensContent o) :
      OpensContentType (a ++ (q ++ (kind ++ (gap ++ o))))

/-- A meta tag from its front up to the value of what opens in it. -/
inductive OpensMeta (opens : Text → Prop) : Text → Prop
  | intro {word gap o : Text} (named : word.map foldCase = metaName) (apart : gap ≠ [])
      (free : ∀ c ∈ gap, closesTag c = false) (inside : opens o) :
      OpensMeta opens ('<' :: (word ++ (gap ++ o)))

/-- What is read has one of these openings in front of it. -/
def Sound (read : Text → Option (Text × Text)) (opens : Text → Prop) : Prop :=
  ∀ s v r, read s = some (v, r) → ∃ o, opens o ∧ s = o ++ (v ++ r) ∧ Value v

theorem charset?_sound : Sound charset? OpensCharset := by
  intro s v r found
  obtain ⟨t, assigned, valued⟩ := Option.bind_eq_some_iff.mp found
  obtain ⟨a, assigns, rfl⟩ := exists_of_assigned? assigned
  obtain ⟨q, mark, split⟩ := exists_of_skipQuote t
  obtain ⟨behind, value⟩ := value_of_value? valued
  exact ⟨a ++ q, .intro assigns mark, by rw [List.append_assoc, ← behind, ← split], value⟩

theorem parameter?_sound : Sound parameter? OpensParameter := by
  intro s v r found
  unfold parameter? at found
  split at found
  · rename_i s
    obtain ⟨t, assigned, valued⟩ := Option.bind_eq_some_iff.mp found
    obtain ⟨a, assigns, split⟩ := exists_of_assigned? assigned
    obtain ⟨rfl, value⟩ := value_of_value? valued
    have blank : ∀ c ∈ s.takeWhile isBlank, isBlank c = true := fun c member => List.mem_takeWhile_imp member
    refine ⟨_, .intro blank assigns, ?_, value⟩
    rw [List.cons_append, List.append_assoc, ← split, List.takeWhile_append_dropWhile]
  · cases found

theorem content?_sound : Sound content? OpensContent := by
  intro s v r found
  obtain ⟨t, assigned, later⟩ := Option.bind_eq_some_iff.mp found
  obtain ⟨a, assigns, rfl⟩ := exists_of_assigned? assigned
  obtain ⟨q, mark, split⟩ := exists_of_skipQuote t
  obtain ⟨inner, s, inside, free, last⟩ := exists_of_furthest? later
  obtain ⟨p, opens, rfl, value⟩ := parameter?_sound s v r last
  exact ⟨_, .intro assigns mark free opens, by rw [split, inside]; simp, value⟩

theorem contentType?_sound : Sound contentType? OpensContentType := by
  intro s v r found
  obtain ⟨t, assigned, later⟩ := Option.bind_eq_some_iff.mp found
  obtain ⟨a, assigns, rfl⟩ := exists_of_assigned? assigned
  obtain ⟨q, mark, split⟩ := exists_of_skipQuote t
  obtain ⟨⟨kind, rest⟩, front, last⟩ := Option.bind_eq_some_iff.mp later
  obtain ⟨typed, named⟩ := word?_eq_some.mp front
  obtain ⟨gap, s, behind, apart, free, found⟩ := exists_of_furthestBehind? last
  obtain ⟨o, opens, rfl, value⟩ := content?_sound s v r found
  refine ⟨_, .intro assigns mark named apart free opens, ?_, value⟩
  rw [split, typed, show rest = _ from behind]
  simp

theorem meta?_sound {read : Text → Option (Text × Text)} {opens : Text → Prop} (sound : Sound read opens) :
    Sound (meta? read) (OpensMeta opens) := by
  intro s v r found
  unfold meta? at found
  split at found
  · rename_i s
    obtain ⟨⟨word, rest⟩, front, last⟩ := Option.bind_eq_some_iff.mp found
    obtain ⟨rfl, named⟩ := word?_eq_some.mp front
    obtain ⟨gap, s, behind, apart, free, inside⟩ := exists_of_furthestBehind? last
    obtain ⟨o, opens, rfl, value⟩ := sound s v r inside
    refine ⟨_, .intro named apart free opens, ?_, value⟩
    rw [show rest = _ from behind]
    simp
  · cases found

end Declaration
end HtmlReflow
