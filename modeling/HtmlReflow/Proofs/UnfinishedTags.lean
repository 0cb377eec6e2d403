import HtmlReflow.Proofs.DeclarationForms
import HtmlReflow.Proofs.TagEnds

namespace HtmlReflow

namespace Declaration

variable {β : Type} {stops : Char → Bool} {read : Text → Option β} {b : β} {c : Char}
  {a k l o p q r s t u x y : Text} {name : Text}

/-- Wherever in a text something is read, it is the same. -/
def Only (read : Text → Option β) (s : Text) (b : β) : Prop := ∀ r, r <:+ s → ∀ b', read r = some b' → b' = b

theorem Only.furthest? (only : Only read s b) : Only (furthest? stops read) s b := by
  intro r suffix b' found
  obtain ⟨u, r, rfl, _, here⟩ := exists_of_furthest? found
  exact only r ((List.suffix_append u r).trans suffix) b' here

theorem Only.furthest?_eq (only : Only read s b) (here : read s = some b) :
    Declaration.furthest? stops read s = some b := by
  have filled : (Declaration.furthest? stops read ([] ++ s)).isSome = true :=
    furthest?_isSome (by simp) (Option.isSome_iff_exists.mpr ⟨b, here⟩)
  obtain ⟨b', found⟩ := Option.isSome_iff_exists.mp filled
  rw [List.nil_append] at found
  rw [found, only.furthest? s List.suffix_rfl b' found]

theorem suffix_append_cases (suffix : r <:+ x ++ y) : r <:+ y ∨ ∃ k, k ≠ [] ∧ k <:+ x ∧ r = k ++ y := by
  obtain ⟨front, same⟩ := suffix
  rcases List.append_eq_append_iff.mp same with ⟨k, rfl, rfl⟩ | ⟨k, rfl, rfl⟩
  · by_cases empty : k = []
    · exact .inl (by simp [empty])
    · exact .inr ⟨k, empty, List.suffix_append _ _, rfl⟩
  · exact .inl (List.suffix_append _ _)

/-- A reading that reaches a place from everywhere in front of it is decided there. -/
theorem Only.furthest?_append (only : Only read s b) (here : read s = some b)
    (free : ∀ d ∈ u, stops d = false) : Only (Declaration.furthest? stops read) (u ++ s) b := by
  intro r suffix b' found
  rcases suffix_append_cases suffix with suffix | ⟨k, _, inside, rfl⟩
  · exact only.furthest? r suffix b' found
  · have reached := Declaration.furthest?_append (fun d member => free d (inside.mem member))
      (only.furthest?_eq here)
    exact Option.some.inj (found.symm.trans reached)

/-- A value without an equals sign, in which no other assignment can start. -/
structure PlainValue (l : Text) : Prop extends Value l where
  unassigned : '=' ∉ l

theorem PlainValue.value?_eq (plain : PlainValue l) : value? l = some (l, []) := by
  have whole : l.takeWhile isValueChar = l := List.takeWhile_eq_self_iff.mpr plain.chars
  have rest : l.dropWhile isValueChar = [] := List.dropWhile_eq_nil_iff.mpr plain.chars
  rw [value?, whole, rest]
  split
  · exact absurd rfl plain.nonempty
  · rfl

theorem notMem_of_blank (blank : ∀ c ∈ s, isBlank c = true) (solid : isBlank c = false) : c ∉ s := by
  intro member
  rw [blank c member] at solid
  cases solid

theorem notMem_map_of_blank (blank : ∀ c ∈ s, isBlank c = true) (solid : isBlank c = false) :
    c ∉ s.map foldCase := by
  have fixed : ∀ d ∈ s, foldCase d = id d := fun d member => foldCase_of_blank (blank d member)
  rw [List.map_congr_left fixed, List.map_id]
  exact notMem_of_blank blank solid

theorem notMem_of_named {word : Text} (named : word.map foldCase = name) (foreign : foldCase c ∉ name) :
    c ∉ word :=
  fun member => foreign (named ▸ List.mem_map_of_mem member)

/-- The parts of an assignment; there is one equals sign. -/
theorem Assigns.exists_parts (assigns : Assigns name a) (unequal : '=' ∉ name) :
    ∃ word before behind, a = (word ++ before) ++ '=' :: behind ∧ word.map foldCase = name ∧
      (∀ c ∈ before, isBlank c = true) ∧ (∀ c ∈ behind, isBlank c = true) ∧
      '=' ∉ word ++ before ∧ '=' ∉ behind := by
  obtain ⟨named, blank⟩ := assigns
  rename_i word before behind
  have fixed : foldCase '=' = '=' := by decide
  obtain ⟨first, second⟩ := List.forall_mem_append.mp blank
  refine ⟨word, before, behind, by simp, named, first, second, ?_, notMem_of_blank second (by decide)⟩
  rw [List.mem_append, not_or]
  exact ⟨notMem_of_named named (by rwa [fixed]), notMem_of_blank first (by decide)⟩

/-- An assignment has its name in front of the first equals sign. -/
theorem name_of_assigned? (once : '=' ∉ y) (free : '=' ∉ x) (unequal : '=' ∉ name)
    (suffix : r <:+ x ++ '=' :: y) (found : assigned? name r = some t) :
    ∃ k, k <:+ x ∧ r = k ++ '=' :: y ∧ name <+: k.map foldCase := by
  obtain ⟨a, assigns, rfl⟩ := exists_of_assigned? found
  obtain ⟨word, before, behind, rfl, named, _, _, front, _⟩ := assigns.exists_parts unequal
  have given : name <+: (word ++ before).map foldCase := by
    rw [List.map_append, named]
    exact List.prefix_append _ _
  rw [List.append_assoc, List.cons_append] at suffix ⊢
  rcases suffix_append_cases suffix with late | ⟨k, _, inside, same⟩
  · rcases List.suffix_cons_iff.mp late with same | late
    · obtain ⟨empty, rest⟩ := append_cons_inj_of_notMem_left front List.not_mem_nil same
      exact ⟨[], List.nil_suffix, by rw [empty, rest], by rwa [empty] at given⟩
    · exact absurd (late.mem (by simp)) once
  · obtain ⟨same, rest⟩ := append_cons_inj_of_notMem_left front (fun member => free (inside.mem member)) same
    exact ⟨k, inside, by rw [same, rest], by rwa [same] at given⟩

theorem Value.dropWhile_eq (value : Value l) : l.dropWhile isBlank = l := by
  obtain ⟨c, w, rfl, _, solid⟩ := value.exists_cons
  exact List.dropWhile_cons_of_neg (by simp [solid])

theorem OpensCharset.charset?_eq (opens : OpensCharset o) (plain : PlainValue l) :
    charset? (o ++ l) = some (l, []) := by
  have read := opens.charset?_append plain.toValue []
  rwa [List.append_nil, plain.value?_eq] at read

/-- No other character set is read on the way: the name starts with a letter that occurs once in it. -/
theorem OpensCharset.only (opens : OpensCharset o) (plain : PlainValue l) :
    Only charset? (o ++ l) (l, []) := by
  have whole := opens.charset?_eq plain
  intro r suffix b' found
  cases opens with
  | @intro a q assigns mark =>
    obtain ⟨t, assigned, _⟩ := Option.bind_eq_some_iff.mp found
    obtain ⟨word, before, behind, rfl, named, first, second, free, free'⟩ := assigns.exists_parts (by decide)
    have once : '=' ∉ behind ++ (q ++ l) := by
      simp [free', mark.notMem (show isQuote '=' = false by decide), plain.unassigned]
    simp only [List.append_assoc, List.cons_append] at suffix whole
    rw [← List.append_assoc] at suffix whole
    obtain ⟨k, inside, rfl, front⟩ := name_of_assigned? once free (by decide) suffix assigned
    obtain ⟨w, word, rfl, _, named⟩ := List.map_eq_cons_iff.mp named
    rcases List.suffix_cons_iff.mp inside with rfl | inside
    · exact Option.some.inj (found.symm.trans whole)
    · have letter : 'c' ∈ (word ++ before).map foldCase :=
        (inside.map foldCase).mem (front.mem (by decide))
      rw [List.map_append, named, List.mem_append] at letter
      rcases letter with letter | letter
      · exact absurd letter (by decide)
      · exact absurd letter (notMem_map_of_blank first (by decide))

theorem solid_of_foldCase (solid : isBlank (foldCase c) = false) : isBlank c = false := by
  cases blank : isBlank c with
  | false => rfl
  | true => rwa [foldCase_of_blank blank, blank] at solid

theorem unquoted_of_foldCase (unquoted : isQuote (foldCase c) = false) : isQuote c = false := by
  cases quote : isQuote c with
  | false => rfl
  | true =>
    rw [isQuote, Bool.or_eq_true, beq_iff_eq, beq_iff_eq] at quote
    rcases quote with rfl | rfl <;> exact unquoted

theorem OpensParameter.parameter?_eq (opens : OpensParameter p) (plain : PlainValue l) :
    parameter? (p ++ l) = some (l, []) := by
  cases opens with
  | @intro gap a blank assigns =>
    have skipped : (gap ++ (a ++ l)).dropWhile isBlank = a ++ l := by
      obtain ⟨word, before, behind, rfl, named, _⟩ := assigns.exists_parts (by decide)
      obtain ⟨w, word, rfl, letter, _⟩ := List.map_eq_cons_iff.mp named
      have solid : isBlank w = false := solid_of_foldCase (by rw [letter]; decide)
      rw [List.dropWhile_append_of_pos blank]
      exact List.dropWhile_cons_of_neg (by simp [solid])
    rw [List.cons_append, List.append_assoc, parameter?, skipped, assigned?_append assigns, Option.bind_some,
      plain.dropWhile_eq, plain.value?_eq]

/-- No other parameter is read on the way: there is no other semicolon with an equals sign behind it. -/
theorem OpensParameter.only (opens : OpensParameter p) (plain : PlainValue l) :
    Only parameter? (p ++ l) (l, []) := by
  have whole := opens.parameter?_eq plain
  intro r suffix b' found
  cases opens with
  | @intro gap a blank assigns =>
    rcases List.suffix_cons_iff.mp suffix with rfl | suffix
    · exact Option.some.inj (found.symm.trans whole)
    · obtain ⟨o, opens, rfl, _⟩ := parameter?_sound r b'.1 b'.2 found
      cases opens with
      | @intro gap' a' _ assigns' =>
        have equals : '=' ∈ a' := by
          obtain ⟨word, before, behind, rfl, _⟩ := assigns'.exists_parts (by decide)
          simp
        rcases suffix_append_cases suffix with late | ⟨k, nonempty, inside, same⟩
        · exact absurd (late.mem (by simp [equals])) plain.unassigned
        · obtain ⟨d, k, rfl⟩ := List.exists_cons_of_ne_nil nonempty
          have semicolon : ';' ∈ gap ++ a := by
            rw [show ';' = d from (List.cons.inj same).1]
            exact inside.mem List.mem_cons_self
          rcases List.mem_append.mp semicolon with member | member
          · exact absurd member (notMem_of_blank blank (by decide))
          · exact absurd member (assigns.notMem (by decide) (by decide) (by decide))

/-- Inside of an assignment the reading of one ends where it ends. -/
theorem eq_nil_of_assigned? (assigns : Assigns name a) (unequal : '=' ∉ name) (inside : k <:+ a)
    (found : assigned? name k = some t) : t = [] := by
  obtain ⟨word, before, behind, rfl, _, _, blank, free, once⟩ := assigns.exists_parts unequal
  obtain ⟨k, front, rfl, _⟩ := name_of_assigned? once free unequal inside found
  obtain ⟨a, assigns', same⟩ := exists_of_assigned? found
  have trimmed : t.dropWhile isBlank = t := by
    rw [same, assigned?_append assigns'] at found
    exact Option.some.inj found
  obtain ⟨word', before', behind', rfl, _, _, _, free', _⟩ := assigns'.exists_parts unequal
  rw [List.append_assoc, List.cons_append] at same
  obtain ⟨_, rest⟩ := append_cons_inj_of_notMem_left (fun member => free (front.mem member)) free' same
  rw [← trimmed, List.dropWhile_eq_nil_iff]
  exact fun c member => blank c (by rw [rest]; exact List.mem_append_right _ member)

theorem skipQuote_suffix (s : Text) : skipQuote s <:+ s := by
  obtain ⟨q, _, split⟩ := exists_of_skipQuote s
  exact ⟨q, split.symm⟩

theorem suffix_of_assigned? (found : assigned? name s = some t) : t <:+ s := by
  obtain ⟨a, _, split⟩ := exists_of_assigned? found
  exact ⟨a, split.symm⟩

/-- What ends the content of a content type. -/
def endsContent (c : Char) : Bool := isQuote c || closesTag c

theorem Assigns.endsContent_free (assigns : Assigns contentName a) : ∀ c ∈ a, endsContent c = false := by
  intro c member
  cases ends : endsContent c with
  | false => rfl
  | true =>
    rw [endsContent, isQuote, closesTag, Bool.or_eq_true, Bool.or_eq_true] at ends
    simp only [beq_iff_eq] at ends
    rcases ends with (rfl | rfl) | rfl
    all_goals exact absurd member (assigns.notMem (by decide) (by decide) (by decide))

variable {inner : Text}

/-- From a content that is read further on, nothing ends it either. -/
theorem skipQuote_free (assigns : Assigns contentName a) (mark : QuoteMark q)
    (free : ∀ c ∈ inner, endsContent c = false) (inside : k <:+ a ++ (q ++ inner))
    (found : assigned? contentName k = some t) : ∀ c ∈ skipQuote t, endsContent c = false := by
  have rest : skipQuote t <:+ k := (skipQuote_suffix t).trans (suffix_of_assigned? found)
  rcases mark.cases with rfl | ⟨d, rfl, quote⟩
  · have through : ∀ c ∈ a ++ inner, endsContent c = false :=
      List.forall_mem_append.mpr ⟨assigns.endsContent_free, free⟩
    exact fun c member => through c (inside.mem (rest.mem member))
  · have passes : ∀ s t, assigned? contentName (s ++ d :: t) = (assigned? contentName s).map (· ++ d :: t) := by
      rw [isQuote, Bool.or_eq_true, beq_iff_eq, beq_iff_eq] at quote
      rcases quote with rfl | rfl
      · exact assigned?_append_cons (by decide) (by decide) (by decide)
      · exact assigned?_append_cons (by decide) (by decide) (by decide)
    rcases suffix_append_cases inside with late | ⟨k, _, early, rfl⟩
    · rcases List.suffix_cons_iff.mp late with rfl | late
      · have none : assigned? contentName [] = none := rfl
        have some := (passes [] inner).symm.trans found
        rw [none] at some
        cases some
      · exact fun c member => free c (late.mem (rest.mem member))
    · rw [List.singleton_append, passes, Option.map_eq_some_iff] at found
      obtain ⟨t, found, rfl⟩ := found
      rw [eq_nil_of_assigned? assigns (by decide) early found, List.nil_append, skipQuote, if_pos quote]
      exact free

theorem content?_append (assigns : Assigns contentName a) (mark : QuoteMark q)
    (free : ∀ c ∈ inner, endsContent c = false) (opens : OpensParameter p) (plain : PlainValue l)
    (inside : k <:+ a ++ (q ++ inner)) (found : assigned? contentName k = some t) :
    content? (k ++ (p ++ l)) = some (l, []) := by
  have last : furthest? endsContent parameter? (p ++ l) = some (l, []) :=
    (opens.only plain).furthest?_eq (opens.parameter?_eq plain)
  have through := skipQuote_free assigns mark free inside found
  cases opens with
  | @intro gap a' _ _ =>
    rw [List.cons_append] at last ⊢
    rw [content?, assigned?_append_cons (by decide) (by decide) (by decide), found, Option.map_some,
      Option.bind_some, skipQuote_append_cons (by decide)]
    exact furthest?_append through last

theorem OpensContent.content?_eq (opens : OpensContent o) (plain : PlainValue l) :
    content? (o ++ l) = some (l, []) := by
  cases opens with
  | @intro a q inner p assigns mark free opens =>
    have found := content?_append assigns mark free opens plain List.suffix_rfl (assigned?_append assigns _)
    simpa only [List.append_assoc] using found

/-- The parameter names no content itself. -/
theorem OpensParameter.assigned?_eq_none (opens : OpensParameter p) (plain : PlainValue l)
    (suffix : r <:+ p ++ l) : assigned? contentName r = none := by
  cases found : assigned? contentName r with
  | none => rfl
  | some t =>
    cases opens with
    | @intro gap a blank assigns =>
      obtain ⟨word, before, behind, rfl, named, first, second, unequal, once⟩ := assigns.exists_parts (by decide)
      have split : ';' :: (gap ++ (word ++ before ++ '=' :: behind)) ++ l =
          (';' :: (gap ++ (word ++ before))) ++ '=' :: (behind ++ l) := by simp
      rw [split] at suffix
      have free : '=' ∉ ';' :: (gap ++ (word ++ before)) := by
        have apart : '=' ∉ gap := notMem_of_blank blank (by decide)
        simp only [List.mem_cons, List.mem_append (s := gap), unequal, apart]
        decide
      have once : '=' ∉ behind ++ l := by simp [once, plain.unassigned]
      obtain ⟨k, inside, rfl, front⟩ := name_of_assigned? once free (by decide) suffix found
      have letter : 'n' ∈ (';' :: (gap ++ (word ++ before))).map foldCase :=
        (inside.map foldCase).mem (front.mem (by decide))
      simp only [List.map_cons, List.map_append, named, List.mem_cons, List.mem_append] at letter
      rcases letter with letter | letter | letter | letter
      · exact absurd letter (by decide)
      · exact absurd letter (notMem_map_of_blank blank (by decide))
      · exact absurd letter (by decide)
      · exact absurd letter (notMem_map_of_blank first (by decide))

/-- No other content is read on the way, since the parameter is the last part of all that could be. -/
theorem OpensContent.only (opens : OpensContent o) (plain : PlainValue l) :
    Only content? (o ++ l) (l, []) := by
  intro r suffix b' found
  obtain ⟨t, assigned, _⟩ := Option.bind_eq_some_iff.mp found
  cases opens with
  | @intro a q inner p assigns mark free opens =>
    have split : a ++ (q ++ (inner ++ p)) ++ l = a ++ (q ++ inner) ++ (p ++ l) := by simp
    rw [split] at suffix
    rcases suffix_append_cases suffix with late | ⟨k, _, early, rfl⟩
    · rw [opens.assigned?_eq_none plain late] at assigned
      cases assigned
    · cases named : assigned? contentName k with
      | none =>
        cases opens with
        | @intro gap a' _ _ =>
          rw [List.cons_append, assigned?_append_cons (by decide) (by decide) (by decide), named] at assigned
          cases assigned
      | some t =>
        have reached := content?_append assigns mark free opens plain early named
        exact Option.some.inj (found.symm.trans reached)

theorem OpensContentType.contentType?_eq (opens : OpensContentType o) (plain : PlainValue l) :
    contentType? (o ++ l) = some (l, []) := by
  cases opens with
  | @intro a q kind gap c assigns mark named apart free opens =>
    have last : furthest? closesTag content? (c ++ l) = some (l, []) :=
      (opens.only plain).furthest?_eq (opens.content?_eq plain)
    have front : word? contentTypeName (kind ++ (gap ++ (c ++ l))) = some (kind, gap ++ (c ++ l)) :=
      word?_eq_some.mpr ⟨rfl, named⟩
    obtain ⟨w, kind, rfl, letter, _⟩ := List.map_eq_cons_iff.mp named
    have solid : isBlank w = false := solid_of_foldCase (by rw [letter]; decide)
    have unquoted : isQuote w = false := unquoted_of_foldCase (by rw [letter]; decide)
    simp only [List.append_assoc, List.cons_append] at front ⊢
    rw [contentType?, assigned?_append assigns, Option.bind_some, mark.dropWhile_append solid,
      mark.skipQuote_append unquoted, front, Option.bind_some, furthestBehind?_append apart free]
    exact furthest?_append (fun d member => free d (List.mem_of_mem_tail member)) last

theorem OpensContentType.only (opens : OpensContentType o) (plain : PlainValue l) :
    Only contentType? (o ++ l) (l, []) := by
  intro r suffix b' found
  obtain ⟨t, assigned, later⟩ := Option.bind_eq_some_iff.mp found
  obtain ⟨⟨kind', rest⟩, front, last⟩ := Option.bind_eq_some_iff.mp later
  obtain ⟨d, z, behind, _, reached⟩ := exists_of_furthestBehind?_cons last
  have inside : z <:+ r := by
    have typed := (word?_eq_some.mp front).1
    rw [show rest = d :: z from behind] at typed
    have tail : z <:+ skipQuote t := ⟨kind' ++ [d], by rw [typed]; simp⟩
    exact tail.trans ((skipQuote_suffix t).trans (suffix_of_assigned? assigned))
  cases opens with
  | @intro a q kind gap c assigns mark named apart free opens =>
    have through : ∀ d ∈ a ++ (q ++ (kind ++ gap)), closesTag d = false :=
      angle_free_append (assigns.angle_free (by decide)) (angle_free_append mark.angle_free
        (angle_free_append (angle_free_of_named named (by decide)) free))
    have decided := (opens.only plain).furthest?_append (opens.content?_eq plain) through
    have split : a ++ (q ++ (kind ++ (gap ++ c))) ++ l = a ++ (q ++ (kind ++ gap)) ++ (c ++ l) := by simp
    rw [split] at suffix
    exact decided z (inside.trans suffix) b' reached

end Declaration
end HtmlReflow
