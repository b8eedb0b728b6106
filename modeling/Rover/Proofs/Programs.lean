import Rover.Proofs.Checking
import Rover.Proofs.Stripping
import Rover.Proofs.Unescaped

namespace Rover

namespace Settings

variable {s : Settings}

theorem NoEscape.lineByLine (clear : s.NoEscape) {st : State} {lines outputs : List Text}
    (ok : (s.lineByLine st lines).result = .ok outputs) : ∀ t ∈ outputs, t.NoEscape := by
  induction lines generalizing st outputs with
  | nil =>
      obtain rfl := Except.ok.inj ok
      simp
  | cons line rest ih =>
      obtain ⟨output, later, answered, others, rfl⟩ := lineByLine_cons_ok ok
      intro t member
      rcases List.mem_append.1 member with first | member
      · obtain rfl := Option.mem_toList.1 first
        exact clear.deedOf st line t (deedOf_eq_ok answered)
      · exact ih others t member

theorem process_untraced (untraced : s.traced = false) {st : State} {stream : Stream}
    (finished : (s.process false st stream).ending = .finished) :
    ∀ e ∈ (s.process false st stream).log, e.isKept false = true := by
  have same : s.stripped false = s := by
    obtain ⟨zone, wording, vocabulary, overrides, encoding, keepsState, traced⟩ := s
    obtain rfl : traced = false := untraced
    rfl
  have whole : (s.process false st stream).breaksOff = false := by
    rw [Stretch.breaksOff, finished]
  have stripped : (s.stripped false).process false st stream = _ := process_stripped (.inr whole)
  have log := congrArg Stretch.log stripped
  rw [same] at log
  exact List.filter_eq_self.1 log.symm

end Settings

namespace Vocabulary

theorem exists_of_mem_mistakes (v : Vocabulary) {n : Nat} {lines : List Text} {m : Mistake}
    (member : m ∈ v.mistakes n lines) : ∃ line, v.read line = .error (.fault m.fault) := by
  induction lines generalizing n with
  | nil => cases member
  | cons line rest ih =>
      rcases List.mem_append.1 member with first | later
      · unfold mistake? at first
        split at first
        · rename_i f refused
          obtain rfl := Option.some.inj (Option.mem_toList.1 first)
          exact ⟨line, refused⟩
        · cases first
      · exact ih later

theorem hint_ne_nil {line : Text} {f : Fault} (refused : standard.read line = .error (.fault f)) :
    f.hint ≠ [] := by
  have usages : ∀ verb ∈ Verb.standard, verb.usage ≠ [] := by decide
  cases found : standard.recognize? (Phrase.ofLine line).keyword with
  | none =>
      rw [read_of_unrecognized found] at refused
      obtain rfl := Refusal.fault.inj (Except.error.inj refused)
      exact List.append_ne_nil_of_left_ne_nil (by decide) _
  | some k =>
      obtain ⟨verb, listed⟩ := get?_of_recognize? found
      have standing := (get?_standard.1 listed).1
      rw [read_of_recognized found listed] at refused
      split at refused
      · cases given : verb.readArguments 1 verb.shape (Phrase.ofLine line).arguments with
        | ok arguments =>
            rw [given] at refused
            cases refused
        | error refusal =>
            rw [given] at refused
            obtain rfl := Except.error.inj refused
            obtain ⟨n, g, -, slot, rfl⟩ := Verb.readArguments_fault given
            exact usages verb standing
      · obtain rfl := Refusal.fault.inj (Except.error.inj refused)
        exact usages verb standing

end Vocabulary

namespace Mistake

/-- How a malformed line of a program is listed: with its number, an excerpt of it, what is wrong
with it, and a hint. -/
def listing (coloured : Bool) (m : Mistake) : Text :=
  Numeral.ofNat m.number ++ ":\"".toList
    ++ (Place.excerpt Place.excerptWidth (some m.content)).render coloured ++ "\": ".toList
    ++ (Styled.inked .alert "syntax error".toList).render coloured ++ ": ".toList
    ++ m.fault.message ++ ['\n']
    ++ (Styled.inked .header ("  hint: ".toList ++ m.fault.hint)).render coloured

theorem text_diagnostic (coloured : Bool) {m : Mistake} (helpful : m.fault.hint ≠ []) :
    (m.diagnostic coloured none).text coloured = m.listing coloured := by
  have plain (t : Text) : (Styled.plain t).render coloured = t := by
    cases coloured <;> simp [Styled.plain, Styled.render]
  have kind : m.fault.issue.kind = Styled.inked .alert "syntax error".toList := by
    cases m.fault <;> rfl
  have message : m.fault.issue.message = m.fault.message := by cases m.fault <;> rfl
  have hint : m.fault.issue.hint? = some m.fault.hint := by cases m.fault <;> rfl
  have place : (⟨some m.number, some m.content, none⟩ : Place).render coloured =
      Numeral.ofNat m.number ++ ":\"".toList
        ++ (Place.excerpt Place.excerptWidth (some m.content)).render coloured ++ ['"'] := by
    change (Styled.plain (Numeral.ofNat m.number ++ ":\"".toList) ++ _ ++ _).render coloured = _
    rw [Styled.render_append, Styled.render_append, plain, plain]
  have body : (m.diagnostic coloured none).body =
      (Styled.inked .alert "syntax error".toList).render coloured ++ (": ".toList
        ++ m.fault.message) ++ (['\n']
        ++ (Styled.inked .header ("  hint: ".toList ++ m.fault.hint)).render coloured) := by
    have shown : (some m.fault.hint).filter (· ≠ []) = some m.fault.hint := by simp [helpful]
    change m.fault.issue.styled.render coloured = _
    simp only [Issue.styled, kind, message, hint, shown, Styled.render_append, plain]
  change Place.render coloured ⟨some m.number, some m.content, none⟩ ++ ": ".toList ++
    (m.diagnostic coloured none).body = _
  rw [place, body]
  simp [listing]

end Mistake

namespace CommandLine

def Task.word : Task → Text
  | .run => "run".toList
  | .check => "check".toList

def programWords (colourless : Bool) (size? : Option Text) (task : Task) (program : Text) :
    List Text :=
  (if colourless then ["--no-colors".toList] else [])
    ++ (size?.elim [] fun size => ["--board-size".toList, size])
    ++ [task.word, "-i".toList, program]

def namedSize : Option Text → Option Int
  | none => some Zone.standard.size
  | some value => Numeral.parse? value

def tally (n : Nat) : Text :=
  if n = 1 then "There is 1 malformed line.".toList
  else "There are ".toList ++ Numeral.ofNat n ++ " malformed lines.".toList

theorem read_task (task : Task) (rest : List Text) :
    general.read (task.word :: rest) = some ([], task.word :: rest) := by
  cases task <;> rfl

theorem read_sized (size? : Option Text) (task : Task) (rest : List Text) :
    general.read ((size?.elim [] fun size => ["--board-size".toList, size]) ++ task.word :: rest) =
      some (size?.toList.map fun size => (.size, size), task.word :: rest) := by
  cases size? with
  | none => exact read_task task rest
  | some size =>
      change (general.read (task.word :: rest)).map _ = _
      rw [read_task]
      rfl

theorem read_programWords (colourless : Bool) (size? : Option Text) (task : Task)
    (program : Text) :
    general.read (programWords colourless size? task program) =
      some ((if colourless then [(.colourless, [])] else [])
        ++ (size?.toList.map fun size => (.size, size)), [task.word, "-i".toList, program]) := by
  cases colourless with
  | false => exact read_sized size? task _
  | true =>
      change (general.read ((size?.elim [] fun size => ["--board-size".toList, size])
        ++ task.word :: ["-i".toList, program])).map _ = _
      rw [read_sized]
      rfl

theorem ofWords_programWords (colourless : Bool) {size? : Option Text} (task : Task)
    (program : Text) {size : Int} (sized : namedSize size? = some size) :
    Invocation.ofWords (programWords colourless size? task program) =
      .ok ⟨false, !colourless, size, task, .program program⟩ := by
  unfold Invocation.ofWords
  rw [read_programWords]
  cases size? with
  | none =>
      obtain rfl := Option.some.inj sized
      cases colourless <;> cases task <;> rfl
  | some value =>
      have asked : fitting (Numeral.parse? value) = .ok size := congrArg fitting sized
      cases colourless <;> cases task <;>
        (change Except.bind (fitting (Numeral.parse? value)) _ = _; rw [asked]; rfl)

theorem shown_of_untraced {log : List Entry} (untraced : ∀ e ∈ log, e.isKept false = true)
    (coloured : Bool) :
    log.flatMap (showEntry coloured) =
      (log.filterMap Entry.output?).flatMap (Styled.onTerminal false) := by
  induction log with
  | nil => rfl
  | cons e rest ih =>
      obtain ⟨first, others⟩ := List.forall_mem_cons.1 untraced
      rw [List.flatMap_cons, ih others]
      cases e with
      | trace line => cases first
      | warning text => rfl
      | output text => rfl

theorem onTerminal_of_noEscape {outputs : List Text} (clear : ∀ t ∈ outputs, t.NoEscape) :
    outputs.flatMap (Styled.onTerminal false) = outputs.flatMap (· ++ ['\n']) := by
  induction outputs with
  | nil => rfl
  | cons t rest ih =>
      obtain ⟨first, others⟩ := List.forall_mem_cons.1 clear
      rw [List.flatMap_cons, List.flatMap_cons, ih others]
      change Text.dropControls t ++ ['\n'] ++ _ = _
      rw [Text.dropControls_of_not_mem first]

theorem Invocation.noEscape_settings (i : Invocation) (size : 0 < i.size) :
    (i.settings size).NoEscape where
  wording := Wording.noEscape_standard
  vocabulary := Vocabulary.noEscape_standard
  overrides := by
    intro e member
    cases member

theorem verdictOn_mistakes (coloured : Bool) {lines : List Text} {skipped : List Mistake}
    (eq : skipped = Vocabulary.standard.mistakes 1 lines) (some : skipped ≠ []) :
    verdictOn coloured (skipped.map (Mistake.diagnostic coloured none)) =
      ⟨1, Styled.printed coloured (Styled.entry .alert (tally skipped.length) [] 0 false)
        ++ skipped.flatMap fun m => Styled.onTerminal coloured (m.listing coloured), [], none⟩ := by
  have texts : ∀ m ∈ skipped,
      (m.diagnostic coloured none).text coloured = m.listing coloured := by
    intro m member
    obtain ⟨line, refused⟩ := Vocabulary.exists_of_mem_mistakes _ (eq ▸ member)
    exact Mistake.text_diagnostic coloured (Vocabulary.hint_ne_nil refused)
  cases skipped with
  | nil => exact absurd rfl some
  | cons m others =>
      have reports : ((m :: others).map (Mistake.diagnostic coloured none)).flatMap
          (fun d => Styled.onTerminal coloured (d.text coloured)) =
            (m :: others).flatMap fun m => Styled.onTerminal coloured (m.listing coloured) := by
        rw [List.flatMap_map]
        exact List.flatMap_congr fun m member => congrArg _ (texts m member)
      rw [← reports]
      simp only [verdictOn, List.map_cons, tally, List.length_cons, List.length_map]

theorem run_program {i : Invocation} {program : Text} (source : i.source = .program program)
    (untraced : i.traced = false) (size : 0 < i.size)
    (small : i.size < (10 ^ Numeral.maxDigits : Nat))
    (short : ∀ line ∈ Text.inlineLines program, (Phrase.ofLine line).IsShort)
    (sources : Sources) :
    (i.stretch size sources).ending = .finished ∧
      (i.stretch size sources).log.filterMap Entry.warning? =
        (Vocabulary.standard.mistakes 1 (Text.inlineLines program)).map Mistake.notice ∧
      run i sources = ⟨0, (i.stretch size sources).outputs.flatMap (· ++ ['\n']),
        (Vocabulary.standard.mistakes 1 (Text.inlineLines program)).map Mistake.notice, none⟩ := by
  have stream : i.source.stream sources =
      .given (.items ((Text.inlineLines program).map .text)) none := by
    rw [source, Source.stream]
  have opens : (Feed.waiting (i.source.stream sources)).opens? = some none := by
    rw [stream]
    rfl
  have texts : (Feed.waiting (i.source.stream sources)).items (i.settings size) =
      (Text.inlineLines program).map .text := by
    rw [stream]
    rfl
  obtain ⟨finished, warnings, ok⟩ := run_of_lines size small opens texts short
  have noTrace : ∀ e ∈ (i.stretch size sources).log, e.isKept false = true := by
    rw [Invocation.stretch, untraced, Bool.and_false] at finished ⊢
    exact Settings.process_untraced untraced finished
  refine ⟨finished, warnings, ?_⟩
  rw [run_of_finished size finished, shown_of_untraced noTrace, warnings]
  exact congrArg (Outcome.mk 0 · _ _)
    (onTerminal_of_noEscape ((i.noEscape_settings size).lineByLine ok))

theorem check_program {j : Invocation} {program : Text} (source : j.source = .program program)
    (short : ∀ line ∈ Text.inlineLines program, (Phrase.ofLine line).IsShort)
    (sources : Sources) :
    check j sources = verdictOn j.coloured
      ((Vocabulary.standard.mistakes 1 (Text.inlineLines program)).map
        (Mistake.diagnostic j.coloured none)) := by
  have clear : ∀ line ∈ Text.inlineLines program, Text.chomp line = line := fun line member =>
    Text.chomp_eq_self (Text.clear_of_mem_lines member)
  simp only [check, source, checkLines]
  rw [faultsFrom_eq j.coloured none 1 clear short]

/-- A program in one argument is run to its end and gives the outputs of its lines, one a line, with
colours or without. A check of it finds it in order just if the run skips nothing, and else tells
how many lines the run skips and lists each of them, in order, with the number and the message of
its warning. -/
theorem program_run_and_checked {program : Text}
    (short : ∀ line ∈ Text.inlineLines program, (Phrase.ofLine line).IsShort)
    {size? : Option Text} {size : Int} (sized : namedSize size? = some size) (positive : 0 < size)
    (sources : Sources) :
    let settings : Settings := { Settings.standard with zone := ⟨size.toNat, by omega⟩ }
    let x := settings.process false State.initial
      (.given (.items ((Text.inlineLines program).map .text)) none)
    let skipped := Vocabulary.standard.mistakes 1 (Text.inlineLines program)
    x.ending = .finished ∧ x.log.filterMap Entry.warning? = skipped.map Mistake.notice ∧
      ∀ colourless,
        perform (programWords colourless size? .run program) sources =
          ⟨0, x.outputs.flatMap (· ++ ['\n']), skipped.map Mistake.notice, none⟩ ∧
        (perform (programWords colourless size? .check program) sources =
          wellFormed (!colourless) ↔ skipped = []) ∧
        (skipped ≠ [] → perform (programWords colourless size? .check program) sources =
          ⟨1, Styled.printed (!colourless) (Styled.entry .alert (tally skipped.length) [] 0 false)
            ++ skipped.flatMap fun m => Styled.onTerminal (!colourless) (m.listing (!colourless)),
            [], none⟩) := by
  intro settings x skipped
  have words (colourless : Bool) (task : Task) := ofWords_programWords colourless task program sized
  have small : size < (10 ^ Numeral.maxDigits : Nat) := Invocation.size_lt (words false .run)
  let i (colourless : Bool) : Invocation := ⟨false, !colourless, size, .run, .program program⟩
  have stretch (colourless : Bool) : (i colourless).stretch positive sources = x := by
    simp only [Invocation.stretch, i, Bool.and_false]
    rfl
  have ran (colourless : Bool) : x.ending = .finished ∧
      x.log.filterMap Entry.warning? = skipped.map Mistake.notice ∧
      run (i colourless) sources =
        ⟨0, x.outputs.flatMap (· ++ ['\n']), skipped.map Mistake.notice, none⟩ := by
    have all := run_program (i := i colourless) rfl rfl positive small short sources
    rwa [stretch] at all
  refine ⟨(ran false).1, (ran false).2.1, fun colourless => ⟨?_, ?_⟩⟩
  · simp only [perform, words]
    exact (ran colourless).2.2
  · have checked : perform (programWords colourless size? .check program) sources =
        verdictOn (!colourless) (skipped.map (Mistake.diagnostic (!colourless) none)) := by
      simp only [perform, words]
      exact check_program rfl short sources
    rw [checked, verdictOn_eq_wellFormed_iff, List.map_eq_nil_iff]
    exact ⟨Iff.rfl, verdictOn_mistakes _ rfl⟩

theorem program_run_and_checked_skips :
    ∃ (program size : Text) (sources : Sources),
      (∀ line ∈ Text.inlineLines program, (Phrase.ofLine line).IsShort) ∧
      namedSize (some size) = some 7 ∧
      perform (programWords false (some size) .run program) sources =
        ⟨0, "Outside Zone: Ignored\n6,2,EAST\n".toList,
          ["Skipping line 2:\"MOVE 1\": 'MOVE' expects 0 argument(s) but got 1".toList,
            "Skipping line 5:\"PIT 1\": 'PIT' expects 2 argument(s) but got 1".toList], none⟩ ∧
      perform (programWords true (some size) .check program) sources ≠ wellFormed false ∧
      perform (programWords true (some size) .check program) sources =
        ⟨1, "There are 2 malformed lines.\n".toList
            ++ "2:\"MOVE 1\": syntax error: 'MOVE' expects 0 argument(s) but got 1\n".toList
            ++ "  hint: MOVE\n".toList
            ++ "5:\"PIT 1\": syntax error: 'PIT' expects 2 argument(s) but got 1\n".toList
            ++ "  hint: PIT INT,INT\n".toList, [], none⟩ := by
  let program : Text := "DEPLOY 6,2,EAST\\nMOVE 1\nMOVE\\nREPORT\nPIT 1".toList
  let size : Text := "7".toList
  let sources : Sources := ⟨fun _ => .error .missing, []⟩
  have short : ∀ line ∈ Text.inlineLines program, (Phrase.ofLine line).IsShort := by
    decide +kernel
  have sized : namedSize (some size) = some 7 := by decide +kernel
  obtain ⟨-, -, each⟩ := program_run_and_checked short sized (by decide) sources
  have skipped : Vocabulary.standard.mistakes 1 (Text.inlineLines program) ≠ [] := by
    decide +kernel
  refine ⟨program, size, sources, short, sized, (each false).1.trans ?_,
    fun ok => skipped ((each true).2.1.1 ok), ((each true).2.2 skipped).trans ?_⟩
  · decide +kernel
  · decide +kernel

end CommandLine

end Rover
