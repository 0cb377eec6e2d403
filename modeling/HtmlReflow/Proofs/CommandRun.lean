import HtmlReflow.Proofs.CommandWords
import HtmlReflow.Proofs.FileWrites
import HtmlReflow.Proofs.Report

namespace HtmlReflow.CommandLine

variable {t t' : FileTree} {stdin bytes : Bytes} {args : List Text} {path html : Text} {fault : Fault}
  {e : Error}

theorem session_bind {α β : Type} {x : Session α} {a : α} (f : α → Session β)
    (first : x.run t = (a, t')) : (x >>= f).run t = (f a).run t' := by
  show (f (x.run t).1).run (x.run t).2 = _
  rw [first]

theorem storage_write_of_error (refused : t.write path bytes = .error fault) :
    ((FileTree.storage stdin).write path bytes).run t = (.error fault, t) := by
  refine (session_bind _ (rfl : (get : Session FileTree).run t = (t, t))).trans ?_
  rw [refused]
  rfl

theorem storage_write_of_ok (written : t.write path bytes = .ok t') :
    ((FileTree.storage stdin).write path bytes).run t = (.ok (), t') := by
  refine (session_bind _ (rfl : (get : Session FileTree).run t = (t, t))).trans ?_
  rw [written]
  rfl

namespace Settings

variable {s : Settings}

def inputOf (t : FileTree) (stdin : Bytes) (s : Settings) : Except Fault Bytes :=
  match s.source with
  | .standardInput => .ok stdin
  | .file path => t.read path

theorem read_source (t : FileTree) (stdin : Bytes) (s : Settings) :
    ((FileTree.storage stdin).read s.source).run t = (s.inputOf t stdin, t) := by
  unfold inputOf
  cases s.source <;> rfl

/-- What a run on a tree of files leaves behind. -/
def outcome (t : FileTree) (stdin : Bytes) (s : Settings) : Outcome × FileTree :=
  (s.run (FileTree.storage stdin)).run t

/-- What a mode makes of a text, with the options that the settings ask for. -/
def result (s : Settings) (html : Text) : Text × Stats := s.mode.apply s.options html

/-- The ways that a run can go, each with what it leaves behind. -/
inductive Ends (t : FileTree) (stdin : Bytes) (s : Settings) : Outcome × FileTree → Prop where
  | unread {fault : Fault} : s.inputOf t stdin = .error fault →
      Ends t stdin s (.failure (.storage fault), t)
  | undecoded {bytes : Bytes} {e : Error} : s.inputOf t stdin = .ok bytes → s.decode bytes = .error e →
      Ends t stdin s (.failure e, t)
  | refused {bytes : Bytes} {html path : Text} {fault : Fault} : s.inputOf t stdin = .ok bytes →
      s.decode bytes = .ok html → s.output = some path →
      t.write path (Utf8.encode (s.result html).1) = .error fault →
      Ends t stdin s (.failure (.storage fault), t)
  | stored {bytes : Bytes} {html path : Text} {t' : FileTree} : s.inputOf t stdin = .ok bytes →
      s.decode bytes = .ok html → s.output = some path →
      t.write path (Utf8.encode (s.result html).1) = .ok t' →
      Ends t stdin s (⟨0, [], s.report (s.result html).2⟩, t')
  | printed {bytes : Bytes} {html : Text} : s.inputOf t stdin = .ok bytes → s.decode bytes = .ok html →
      s.output = none → Ends t stdin s (⟨0, (s.result html).1 ++ ['\n'], s.report (s.result html).2⟩, t)

theorem outcome_of_decoded (read : s.inputOf t stdin = .ok bytes) (decoded : s.decode bytes = .ok html) :
    s.outcome t stdin =
      (s.deliver (FileTree.storage stdin) (s.result html).1 (s.result html).2).run t := by
  unfold outcome run
  rw [session_bind _ (read_source t stdin s), read]
  simp only [decoded]
  rfl

theorem ends_outcome (t : FileTree) (stdin : Bytes) (s : Settings) :
    s.Ends t stdin (s.outcome t stdin) := by
  cases read : s.inputOf t stdin with
  | error fault =>
    have stopped : s.outcome t stdin = (.failure (.storage fault), t) := by
      unfold outcome run
      rw [session_bind _ (read_source t stdin s), read]
      rfl
    exact stopped ▸ .unread read
  | ok bytes =>
    cases decoded : s.decode bytes with
    | error e =>
      have stopped : s.outcome t stdin = (.failure e, t) := by
        unfold outcome run
        rw [session_bind _ (read_source t stdin s), read]
        simp only [decoded]
        rfl
      exact stopped ▸ .undecoded read decoded
    | ok html =>
      rw [outcome_of_decoded read decoded, deliver]
      cases output : s.output with
      | none => exact .printed read decoded output
      | some path =>
        simp only
        cases written : t.write path (Utf8.encode (s.result html).1) with
        | error fault =>
          rw [session_bind _ (storage_write_of_error written)]
          exact .refused read decoded output written
        | ok t' =>
          rw [session_bind _ (storage_write_of_ok written)]
          exact .stored read decoded output written

end Settings

theorem performOn_of_run {s : Settings} (accepted : parse args = .ok (.run s)) :
    performOn t stdin args = s.outcome t stdin := by
  unfold performOn perform
  rw [accepted]
  rfl

def smallTree : FileTree :=
  FileTree.fresh ["d".toList] [("a.html".toList, Utf8.encode "<p> a </p>".toList)]

namespace Settings

/-- What is left behind by a run that goes through: `bytes` are those of the input as it was, `html` is
    their text, and `out` and `stats` are what the mode makes of it. -/
structure Fulfilled (s : Settings) (t : FileTree) (stdin bytes : Bytes) (html out : Text) (stats : Stats)
    (left : Outcome × FileTree) : Prop where
  fromInput : s.input = none ∨ s.input = some ['-'] → bytes = stdin
  fromFile : ∀ path, s.input = some path → path ≠ ['-'] → t.read path = .ok bytes
  sniffed : s.encoding = none → html = Document.text bytes
  labelled : ∀ label, s.encoding = some label → Document.textAs label bytes = .ok html
  applied : (out, stats) = s.mode.apply ⟨!s.keepComments, true, true, !s.noRawFormat⟩ html
  printed : s.output = none → left.1.stdout = out ++ ['\n'] ∧ left.2 = t
  stored : ∀ path, s.output = some path → left.1.stdout = [] ∧
    ∃ place, t.Leads path place ∧ t.Stores left.2 place (Utf8.encode out)
  reported : s.stats = true → ∃ line, stats.Json line ∧ left.1.stderr = line ++ ['\n']
  silent : s.stats = false → left.1.stderr = []

variable {s : Settings} {left : Outcome × FileTree}

theorem of_inputOf (read : s.inputOf t stdin = .ok bytes) :
    (s.input = none ∨ s.input = some ['-'] → bytes = stdin) ∧
      ∀ path, s.input = some path → path ≠ ['-'] → t.read path = .ok bytes := by
  unfold inputOf source at read
  cases given : s.input with
  | none =>
    rw [given] at read
    cases read
    exact ⟨fun _ => rfl, fun path impossible => by cases impossible⟩
  | some path =>
    rw [given] at read
    by_cases dash : path = ['-']
    · simp only [dash, if_true] at read
      cases read
      refine ⟨fun _ => rfl, fun path' same other => ?_⟩
      cases same
      exact absurd dash other
    · simp only [dash, if_false] at read
      refine ⟨fun lone => ?_, fun path' same _ => ?_⟩
      · rcases lone with none | same
        · cases none
        · cases same
          exact absurd rfl dash
      · cases same
        exact read

theorem of_decode (decoded : s.decode bytes = .ok html) :
    (s.encoding = none → html = Document.text bytes) ∧
      ∀ label, s.encoding = some label → Document.textAs label bytes = .ok html := by
  unfold decode at decoded
  cases given : s.encoding with
  | none =>
    rw [given] at decoded
    cases decoded
    exact ⟨fun _ => rfl, fun label impossible => by cases impossible⟩
  | some label =>
    rw [given] at decoded
    refine ⟨fun impossible => ?_, fun label' same => ?_⟩
    · cases impossible
    · cases same
      exact decoded

/-- What a run says of its sizes: the JSON object of them on a line of its own, or nothing. -/
theorem of_report (s : Settings) (stats : Stats) :
    (s.stats = true → ∃ line, stats.Json line ∧ s.report stats = line ++ ['\n']) ∧
      (s.stats = false → s.report stats = []) := by
  constructor
  · intro asked
    exact ⟨_, stats.json_report, by rw [Settings.report, asked]; rfl⟩
  · intro unasked
    rw [Settings.report, unasked]
    rfl

theorem exists_fulfilled (ends : s.Ends t stdin left) (succeeded : left.1.exit = 0) :
    ∃ bytes html out stats, s.Fulfilled t stdin bytes html out stats left := by
  cases ends with
  | unread => cases succeeded
  | undecoded => cases succeeded
  | refused => cases succeeded
  | stored read decoded output written =>
    refine ⟨_, _, _, _, (of_inputOf read).1, (of_inputOf read).2, (of_decode decoded).1,
      (of_decode decoded).2, rfl, fun none => ?_, fun path same => ?_, (of_report s _).1, (of_report s _).2⟩
    · rw [output] at none
      cases none
    · rw [output] at same
      cases same
      exact ⟨rfl, FileTree.exists_stores_of_write written⟩
  | printed read decoded output =>
    refine ⟨_, _, _, _, (of_inputOf read).1, (of_inputOf read).2, (of_decode decoded).1,
      (of_decode decoded).2, rfl, fun _ => ⟨rfl, rfl⟩, fun path some => ?_, (of_report s _).1,
      (of_report s _).2⟩
    rw [output] at some
    cases some

end Settings

/-- A run that goes through does what the words of its command line ask for, and nothing else. -/
theorem performOn_succeeded {s : Settings} (accepted : parse args = .ok (.run s))
    (succeeded : (performOn t stdin args).1.exit = 0) :
    ∃ words bytes html out stats, Spells args words ∧ s.Asked words ∧
      s.Fulfilled t stdin bytes html out stats (performOn t stdin args) := by
  obtain ⟨words, spelt, asked⟩ := exists_words_of_parse accepted
  rw [performOn_of_run accepted] at succeeded ⊢
  obtain ⟨bytes, html, out, stats, fulfilled⟩ := Settings.exists_fulfilled (s.ends_outcome t stdin) succeeded
  exact ⟨words, bytes, html, out, stats, spelt, asked, fulfilled⟩

/-- The file is its own output, under another name. -/
def inPlaceArguments : List Text := ["min", "d/../a.html", "-o=a.html", "--stats"].map String.toList

def inPlace : Settings :=
  { mode := .minify, input := some "d/../a.html".toList, output := some "a.html".toList, stats := true }

theorem performOn_succeeded_inPlace :
    parse inPlaceArguments = .ok (.run inPlace) ∧
      (performOn smallTree [] inPlaceArguments).1.exit = 0 ∧
      ((performOn smallTree [] inPlaceArguments).2.read "d/../a.html".toList).toOption =
        some (Utf8.encode "<p>a</p>".toList) ∧
      (performOn smallTree [] inPlaceArguments).1.stderr =
        "\x7b\"input_bytes\":10,\"output_bytes\":8,\"preserved_blocks\":0\x7d\n".toList ∧
      ∃ words bytes html out stats, Spells inPlaceArguments words ∧ inPlace.Asked words ∧
        inPlace.Fulfilled smallTree [] bytes html out stats (performOn smallTree [] inPlaceArguments) := by
  have accepted : parse inPlaceArguments = .ok (.run inPlace) := rfl
  have done : (performOn smallTree [] inPlaceArguments).1.exit = 0 := by decide +kernel
  exact ⟨accepted, done, by decide +kernel, by decide +kernel, performOn_succeeded accepted done⟩

end HtmlReflow.CommandLine
