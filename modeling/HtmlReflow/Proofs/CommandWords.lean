import HtmlReflow.CommandLine.Arguments

namespace HtmlReflow.CommandLine

def Flag.name : Flag → Text
  | .keepComments => "keep-comments".toList
  | .noRawFormat => "no-raw-format".toList
  | .stats => "stats".toList

def Setting.name : Setting → Text
  | .output => "output".toList
  | .encoding => "encoding".toList

/-- What a command line says, however it is spelt. -/
inductive Word where
  | plain (s : Text)
  | value (k : Setting) (value : Text)
  | flag (f : Flag)
  deriving DecidableEq, Repr

/-- The arguments that give an option a value: one for both, or one for each. -/
inductive Setting.Given : Setting → Text → List Text → Prop where
  | joined (k : Setting) (value : Text) : Given k value ['-' :: '-' :: (k.name ++ '=' :: value)]
  | apart (k : Setting) {value : Text} : isRefusedValue value = false →
      Given k value ['-' :: '-' :: k.name, value]
  | shortJoined {rest value : Text} : attachedValue rest = some value →
      Given .output value ['-' :: 'o' :: rest]
  | shortApart {value : Text} : isRefusedValue value = false → Given .output value [['-', 'o'], value]

/-- The words of a command line, in the order of its arguments. Behind two dashes all are plain. -/
inductive Spells : List Text → List Word → Prop where
  | done : Spells [] []
  | dashes (args : List Text) : Spells (['-', '-'] :: args) (args.map .plain)
  | plain {s : Text} {args : List Text} {words : List Word} : isRefusedValue s = false →
      Spells args words → Spells (s :: args) (.plain s :: words)
  | value {k : Setting} {value : Text} {front args : List Text} {words : List Word} :
      k.Given value front → Spells args words → Spells (front ++ args) (.value k value :: words)
  | flag (f : Flag) {args : List Text} {words : List Word} : Spells args words →
      Spells (('-' :: '-' :: f.name) :: args) (.flag f :: words)

theorem lookup_mem {α β : Type} [BEq α] [LawfulBEq α] {a : α} {b : β} {entries : List (α × β)}
    (found : entries.lookup a = some b) : (a, b) ∈ entries := by
  obtain ⟨front, back, split, _⟩ := List.lookup_eq_some_iff.mp found
  rw [split]
  exact List.mem_append_right front List.mem_cons_self

theorem name_of_flag {name : Text} {f : Flag} (found : longNames.lookup name = some (.flag f)) :
    name = f.name := by
  have listed : ∀ entry ∈ longNames, entry.2 = .flag f → entry.1 = f.name := by cases f <;> decide
  exact listed _ (lookup_mem found) rfl

theorem name_of_setting {name : Text} {k : Setting} (found : longNames.lookup name = some (.setting k)) :
    name = k.name := by
  have listed : ∀ entry ∈ longNames, entry.2 = .setting k → entry.1 = k.name := by cases k <;> decide
  exact listed _ (lookup_mem found) rfl

theorem cutAtEquals_spelt (s : Text) :
    s = (cutAtEquals s).1 ++ ((cutAtEquals s).2.map ('=' :: ·)).getD [] := by
  unfold cutAtEquals
  have whole := List.takeWhile_append_dropWhile (p := (· != '=')) (l := s)
  split
  · simp
  · rename_i c value cut
    have equals : c = '=' := by
      have first := List.head_dropWhile_not (· != '=') (l := s) (by rw [cut]; simp)
      simpa [cut] using first
    rw [cut, equals] at whole
    exact whole.symm

theorem setting_of_letter {letter : Char} {k : Setting}
    (found : shortNames.lookup letter = some (.setting k)) : letter = 'o' ∧ k = .output := by
  have listed : ∀ entry ∈ shortNames, entry.2 = .setting k → entry.1 = 'o' ∧ k = .output := by
    cases k <;> decide
  exact listed _ (lookup_mem found) rfl

theorem attachedValue_eq_none {rest : Text} (none : attachedValue rest = none) : rest = [] := by
  unfold attachedValue at none
  split at none
  · rfl
  · cases none
  · cases none

theorem exists_of_isRefusedValue {s : Text} (refused : isRefusedValue s = true) :
    ∃ letter rest, s = '-' :: letter :: rest := by
  unfold isRefusedValue at refused
  split at refused
  · exact ⟨_, _, rfl⟩
  · cases refused

theorem ofText_eq_plain {arg s : Text} (form : Argument.ofText arg = .plain s) :
    s = arg ∧ isRefusedValue arg = false := by
  unfold Argument.ofText at form
  split at form
  · cases form
  · cases form
  · cases form
  · rename_i short
    cases form
    refine ⟨rfl, ?_⟩
    cases refused : isRefusedValue arg with
    | false => rfl
    | true =>
      obtain ⟨letter, rest, rfl⟩ := exists_of_isRefusedValue refused
      exact absurd rfl (short letter rest)

theorem ofText_eq_endOfOptions {arg : Text} (form : Argument.ofText arg = .endOfOptions) :
    arg = ['-', '-'] := by
  unfold Argument.ofText at form
  split at form <;> first | rfl | cases form

/-- An argument that names an option is two dashes and a long name, maybe with a value, or one dash and a
    letter. -/
theorem key?_eq_some {arg : Text} {key : Key} {value : Option Text}
    (named : (Argument.ofText arg).key? = some (key, value)) :
    (∃ name, longNames.lookup name = some key ∧
      arg = '-' :: '-' :: (name ++ (value.map ('=' :: ·)).getD [])) ∨
    ∃ letter rest, shortNames.lookup letter = some key ∧ arg = '-' :: letter :: rest ∧
      ∀ k, key = .setting k → value = attachedValue rest := by
  unfold Argument.ofText at named
  split at named
  · cases named
  · rename_i s _
    obtain ⟨key', found, same⟩ := Option.map_eq_some_iff.mp named
    cases same
    exact .inl ⟨_, found, by rw [← cutAtEquals_spelt]⟩
  · rename_i letter rest _ _
    obtain ⟨key', found, same⟩ := Option.map_eq_some_iff.mp named
    obtain ⟨rfl, rfl⟩ := Prod.mk.inj same
    exact .inr ⟨letter, rest, found, rfl, fun k setting => by rw [setting]⟩
  · cases named

theorem flag_of_key? {arg : Text} {f : Flag}
    (named : (Argument.ofText arg).key? = some (.flag f, none)) : arg = '-' :: '-' :: f.name := by
  rcases key?_eq_some named with ⟨name, found, spelt⟩ | ⟨letter, rest, found, _⟩
  · rw [spelt, name_of_flag found]
    simp
  · have listed : ∀ entry ∈ shortNames, entry.2 ≠ .flag f := by cases f <;> decide
    exact absurd rfl (listed _ (lookup_mem found))

theorem given_of_key? {arg value : Text} {k : Setting}
    (named : (Argument.ofText arg).key? = some (.setting k, some value)) : k.Given value [arg] := by
  rcases key?_eq_some named with ⟨name, found, spelt⟩ | ⟨letter, rest, found, spelt, attached⟩
  · rw [spelt, name_of_setting found]
    exact .joined k value
  · obtain ⟨rfl, rfl⟩ := setting_of_letter found
    rw [spelt]
    exact .shortJoined (attached _ rfl).symm

theorem given_of_key?_apart {arg value : Text} {k : Setting}
    (named : (Argument.ofText arg).key? = some (.setting k, none)) (fit : isRefusedValue value = false) :
    k.Given value [arg, value] := by
  rcases key?_eq_some named with ⟨name, found, spelt⟩ | ⟨letter, rest, found, spelt, attached⟩
  · rw [spelt, name_of_setting found, Option.map_none, Option.getD_none, List.append_nil]
    exact .apart k fit
  · obtain ⟨rfl, rfl⟩ := setting_of_letter found
    rw [spelt, attachedValue_eq_none (attached _ rfl).symm]
    exact .shortApart fit

def plains (words : List Word) : List Text :=
  words.filterMap fun
    | .plain s => some s
    | _ => none

/-- The values that are given for an option. -/
def given (k : Setting) (words : List Word) : List Text :=
  words.filterMap fun
    | .value k' value => if k' = k then some value else none
    | _ => none

namespace Draft

def value? (d : Draft) : Setting → Option Text
  | .output => d.output
  | .encoding => d.encoding

def flag (d : Draft) : Flag → Bool
  | .keepComments => d.keepComments
  | .noRawFormat => d.noRawFormat
  | .stats => d.stats

/-- What has been read of a command line is what its words say: the first plain word is the mode, the
    second the input and there is no third; an option is given once if at all. -/
structure Holds (d : Draft) (words : List Word) : Prop where
  plains : (plains words = [] ∧ d.mode = none ∧ d.input = none) ∨
    ∃ name mode, plains words = name :: d.input.toList ∧ Mode.ofName? name = some mode ∧
      d.mode = some mode
  given : ∀ k, given k words = (d.value? k).toList
  flags : ∀ f, words.count (.flag f) = (d.flag f).toNat
  named : d.input ≠ some [] ∧ d.output ≠ some []

variable {d d' : Draft} {words : List Word} {s option value : Text} {k : Setting} {f : Flag}

theorem holds_nil : ({} : Draft).Holds [] where
  plains := .inl ⟨rfl, rfl, rfl⟩
  given := fun k => by cases k <;> rfl
  flags := fun f => by cases f <;> rfl
  named := ⟨by simp, by simp⟩

theorem Holds.addPlain (holds : d.Holds words) (added : d.addPlain s = .ok d') :
    d'.Holds (words ++ [.plain s]) := by
  have plain : CommandLine.plains (words ++ [.plain s]) = CommandLine.plains words ++ [s] := by
    simp [CommandLine.plains]
  have kept : ∀ k, CommandLine.given k (words ++ [.plain s]) = CommandLine.given k words := fun k => by
    simp [CommandLine.given]
  have others : ∀ f, (words ++ [Word.plain s]).count (.flag f) = words.count (.flag f) := fun f => by
    simp
  unfold Draft.addPlain at added
  split at added
  · rename_i noMode
    split at added
    · rename_i mode found
      cases added
      rcases holds.plains with ⟨empty, _, input⟩ | ⟨_, _, _, _, some⟩
      · refine ⟨.inr ⟨s, mode, by rw [plain, empty, input]; rfl, found, rfl⟩, fun k => ?_, fun f => ?_,
          holds.named⟩
        · rw [kept, holds.given]
          cases k <;> rfl
        · rw [others, holds.flags]
          cases f <;> rfl
      · rw [noMode] at some
        cases some
    · cases added
  · rename_i m some noInput
    split at added
    · cases added
    · rename_i nonempty
      cases added
      rcases holds.plains with ⟨_, none, _⟩ | ⟨name, mode, front, found, same⟩
      · rw [some] at none
        cases none
      · refine ⟨.inr ⟨name, mode, by rw [plain, front, noInput]; rfl, found, same⟩, fun k => ?_,
          fun f => ?_, by simpa using nonempty, holds.named.2⟩
        · rw [kept, holds.given]
          cases k <;> rfl
        · rw [others, holds.flags]
          cases f <;> rfl
  · cases added

theorem of_set (added : d.set option k value = .ok d') :
    (d.value? k = none ∧ d'.mode = d.mode ∧ d'.input = d.input ∧ d'.flag = d.flag) ∧
      (∀ k', d'.value? k' = if k = k' then some value else d.value? k') ∧
      (d.output ≠ some [] → d'.output ≠ some []) := by
  cases k with
  | output =>
    simp only [Draft.set] at added
    split at added
    · cases added
    · rename_i fresh
      split at added
      · cases added
      · rename_i nonempty
        cases added
        refine ⟨⟨by simpa [value?] using fresh, rfl, rfl, rfl⟩, fun k' => by cases k' <;> rfl, fun _ => ?_⟩
        simpa using nonempty
  | encoding =>
    simp only [Draft.set] at added
    split at added
    · cases added
    · rename_i fresh
      cases added
      exact ⟨⟨by simpa [value?] using fresh, rfl, rfl, rfl⟩, fun k' => by cases k' <;> rfl, id⟩

theorem Holds.set (holds : d.Holds words) (added : d.set option k value = .ok d') :
    d'.Holds (words ++ [.value k value]) := by
  obtain ⟨⟨fresh, mode, input, flags⟩, values, output⟩ := of_set added
  have plain : CommandLine.plains (words ++ [.value k value]) = CommandLine.plains words := by
    simp [CommandLine.plains]
  have longer : ∀ k', CommandLine.given k' (words ++ [.value k value]) =
      CommandLine.given k' words ++ if k = k' then [value] else [] := fun k' => by
    by_cases same : k = k' <;> simp [CommandLine.given, same]
  refine ⟨by rw [plain, mode, input]; exact holds.plains, fun k' => ?_, fun f => ?_,
    input ▸ holds.named.1, output holds.named.2⟩
  · rw [longer, holds.given, values]
    by_cases same : k = k'
    · rw [if_pos same, if_pos same, ← same, fresh]
      rfl
    · rw [if_neg same, if_neg same, List.append_nil]
  · rw [flags, ← holds.flags]
    simp

theorem of_switch (added : d.switch option f = .ok d') :
    d.flag f = false ∧ d'.mode = d.mode ∧ d'.input = d.input ∧ d'.value? = d.value? ∧
      ∀ f', d'.flag f' = (d.flag f' || f == f') := by
  cases f
  all_goals
    simp only [Draft.switch] at added
    split at added
    · cases added
    · rename_i off
      cases added
      refine ⟨Bool.eq_false_iff.mpr off, rfl, rfl, rfl, fun f' => ?_⟩
      cases f' <;> simp [flag]

theorem Holds.switch (holds : d.Holds words) (added : d.switch option f = .ok d') :
    d'.Holds (words ++ [.flag f]) := by
  obtain ⟨off, mode, input, values, flags⟩ := of_switch added
  have plain : CommandLine.plains (words ++ [.flag f]) = CommandLine.plains words := by
    simp [CommandLine.plains]
  have kept : ∀ k, CommandLine.given k (words ++ [.flag f]) = CommandLine.given k words := fun k => by
    simp [CommandLine.given]
  have output : d'.output = d.output := congrFun values .output
  refine ⟨by rw [plain, mode, input]; exact holds.plains, fun k => ?_, fun f' => ?_, ?_⟩
  · rw [kept, values, holds.given]
  · rw [List.count_append, holds.flags, flags]
    by_cases same : f = f'
    · subst same
      simp [off]
    · have other : ¬ Word.flag f = .flag f' := fun e => same (Word.flag.inj e)
      rw [List.count_singleton, beq_eq_false_iff_ne.mpr other, beq_eq_false_iff_ne.mpr same, Bool.or_false]
      rfl
  · rw [input, output]
    exact holds.named

end Draft

def Settings.Asked (s : Settings) (words : List Word) : Prop :=
  Draft.Holds ⟨some s.mode, s.input, s.output, s.encoding, s.keepComments, s.noRawFormat, s.stats⟩ words

variable {d : Draft} {read : List Word} {args : List Text} {settings : Settings}

theorem asked_of_finish (holds : d.Holds read) (finished : d.finish = .ok (.run settings)) :
    settings.Asked read := by
  unfold Draft.finish at finished
  split at finished
  · cases finished
  · rename_i mode some
    cases finished
    obtain ⟨⟩ := d
    cases some
    exact holds

theorem asked_of_readPlain (holds : d.Holds read) (accepted : readPlain d args = .ok (.run settings)) :
    settings.Asked (read ++ args.map .plain) := by
  induction args generalizing d read with
  | nil => simpa using asked_of_finish holds accepted
  | cons s args ih =>
    unfold readPlain at accepted
    split at accepted
    · cases accepted
    · rename_i added
      have later := ih (holds.addPlain added) accepted
      rwa [List.append_assoc] at later

theorem exists_words_of_readFrom (holds : d.Holds read) (accepted : readFrom d args = .ok (.run settings)) :
    ∃ words, Spells args words ∧ settings.Asked (read ++ words) := by
  -- The cases that are left out end in an error; the others read one word and go on.
  fun_induction readFrom d args generalizing read with
  | case1 d => exact ⟨[], .done, by simpa using asked_of_finish holds accepted⟩
  | case2 d arg args form =>
    rw [ofText_eq_endOfOptions form]
    exact ⟨_, .dashes args, asked_of_readPlain holds accepted⟩
  | case4 d arg args s form d' added ih =>
    obtain ⟨rfl, fit⟩ := ofText_eq_plain form
    obtain ⟨words, spelt, asked⟩ := ih (holds.addPlain added) accepted
    exact ⟨_, .plain fit spelt, by rwa [List.append_assoc] at asked⟩
  | case9 d arg args f d' added _ _ named ih =>
    obtain ⟨words, spelt, asked⟩ := ih (holds.switch added) accepted
    rw [flag_of_key? named]
    exact ⟨_, .flag f spelt, by rwa [List.append_assoc] at asked⟩
  | case11 d arg args k value d' added _ _ named ih =>
    obtain ⟨words, spelt, asked⟩ := ih (holds.set added) accepted
    exact ⟨_, .value (given_of_key? named) spelt, by rwa [List.append_assoc] at asked⟩
  | case15 d arg k value args fit d' added _ _ named ih =>
    obtain ⟨words, spelt, asked⟩ := ih (holds.set added) accepted
    have given := given_of_key?_apart named (Bool.eq_false_iff.mpr fit)
    exact ⟨_, .value given spelt, by rwa [List.append_assoc] at asked⟩
  | _ => cases accepted

/-- An accepted command line asks for what its words say. -/
theorem exists_words_of_parse (accepted : parse args = .ok (.run settings)) :
    ∃ words, Spells args words ∧ settings.Asked words :=
  exists_words_of_readFrom Draft.holds_nil accepted

end HtmlReflow.CommandLine
