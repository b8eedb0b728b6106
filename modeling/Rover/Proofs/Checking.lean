import Rover.CommandLine.Run
import Rover.Proofs.Chunks
import Rover.Proofs.LineBreaks
import Rover.Proofs.Robustness

namespace Rover

namespace Numeral

theorem digitValue?_lt {c : Char} {d : Nat} (h : Text.digitValue? c = some d) : d < 10 := by
  unfold Text.digitValue? at h
  obtain ⟨z, found, rfl⟩ := Option.map_eq_some_iff.1 h
  have near := List.find?_some found
  simp only [Bool.and_eq_true, decide_eq_true_eq] at near
  omega

theorem looseDigits_digit {s digits : Text} (h : looseDigits s = some digits) :
    ∀ c ∈ digits, ∃ d < 10, c = Nat.digitChar d := by
  fun_induction looseDigits s generalizing digits with
  | case1 => cases h
  | case2 c =>
      obtain ⟨d, value, rfl⟩ := Option.map_eq_some_iff.1 h
      simpa using ⟨d, digitValue?_lt value, rfl⟩
  | case3 c rest ih =>
      obtain ⟨d, value, h⟩ := Option.bind_eq_some_iff.1 h
      obtain ⟨others, later, h⟩ := Option.bind_eq_some_iff.1 h
      obtain rfl := Option.some.inj h
      simpa using ⟨⟨d, digitValue?_lt value, rfl⟩, ih later⟩
  | case4 c rest _ _ ih =>
      obtain ⟨d, value, h⟩ := Option.bind_eq_some_iff.1 h
      obtain ⟨others, later, h⟩ := Option.bind_eq_some_iff.1 h
      obtain rfl := Option.some.inj h
      simpa using ⟨⟨d, digitValue?_lt value, rfl⟩, ih later⟩

theorem parse?_lt {s : Text} {n : Int} (h : parse? s = some n) : n < (10 ^ maxDigits : Nat) := by
  obtain ⟨digits, loose, h⟩ := Option.bind_eq_some_iff.1 h
  split at h
  · rename_i few
    have small := ofDigitChars_lt (looseDigits_digit loose)
    have most : 10 ^ digits.length ≤ 10 ^ maxDigits := Nat.pow_le_pow_right (by decide) few
    obtain rfl := Option.some.inj h
    unfold signed
    split <;> omega
  · cases h

end Numeral

namespace Settings

variable {s : Settings}

theorem passes_text_iff (standard : s.IsStandard) (small : s.zone.size ≤ 10 ^ Numeral.maxDigits)
    {st : State} (sound : State.Sound s.zone st) {lines : List Text} :
    s.Passes st (lines.map .text) ↔ ∀ line ∈ lines, ¬ (Phrase.ofLine line).IsOverlong := by
  induction lines generalizing st with
  | nil => simp [Passes]
  | cons line rest ih =>
      have later := ih (execute_sound line sound)
      simp only [List.map_cons, Passes, List.forall_mem_cons, ← later]
      constructor
      · rintro ⟨_, output, holds, ok, passed⟩
        obtain rfl := Except.ok.inj holds
        refine ⟨fun long => ?_, passed⟩
        rw [(execute_error_iff standard sound).2 (.overlong long)] at ok
        cases ok
      · rintro ⟨short, passed⟩
        cases result : (s.execute st line).result with
        | error c =>
            have fatal := (execute_error_iff standard sound).1 result
            exact absurd (fatal.overlong_of_small small sound).1 short
        | ok output => exact ⟨line, output, rfl, result, passed⟩

end Settings

namespace CommandLine

def Source.content? (sources : Sources) : Source → Option (Text × Bytes)
  | .file path => ((sources.openFile path).toOption).map (path, ·)
  | .program _ => none
  | .standard => some (standardName, sources.standard)

def wellFormed (coloured : Bool) : Outcome :=
  ⟨0, Styled.printed coloured (Styled.entry .header "Commands OK.".toList [] 0 false), [], none⟩

variable {sources : Sources} {source : Source} {name : Text} {content : Bytes} {s : Text}

theorem Source.content?_cases (given : source.content? sources = some (name, content)) :
    source = .file name ∧ sources.openFile name = .ok content ∨
      source = .standard ∧ name = standardName ∧ content = sources.standard := by
  cases source with
  | file path =>
      cases opened : sources.openFile path with
      | error e => simp [content?, opened, Except.toOption] at given
      | ok bytes =>
          obtain ⟨rfl, rfl⟩ : path = name ∧ bytes = content := by
            simpa [content?, opened, Except.toOption] using given
          exact .inl ⟨rfl, opened⟩
  | program text => cases given
  | standard =>
      obtain ⟨rfl, rfl⟩ := Prod.mk.inj (Option.some.inj given)
      exact .inr ⟨rfl, rfl, rfl⟩

theorem Source.stream_of_content (given : source.content? sources = some (name, content)) :
    source.stream sources = .file name (.ok content) := by
  rcases content?_cases given with ⟨rfl, opened⟩ | ⟨rfl, rfl, rfl⟩
  · rw [stream, opened]
  · rw [stream]

theorem check_of_content {j : Invocation} (given : j.source.content? sources = some (name, content))
    (text : Encoding.utf8.decode content = .ok s) :
    check j sources = checkLines j.coloured (some name) (Text.lines (Text.uniformBreaks s)) := by
  have whole : wholeLines content = .ok (Text.lines (Text.uniformBreaks s)) := by
    rw [wholeLines, text]
    rfl
  unfold check
  rcases Source.content?_cases given with ⟨source, opened⟩ | ⟨source, rfl, rfl⟩
  · simp only [source, opened, whole]
  · simp only [source, whole]

theorem fitting_eq_ok {α : Type} {a? : Option α} {a : α} (h : fitting a? = .ok a) :
    a? = some a := by
  cases a? with
  | none => cases h
  | some b => rw [Except.ok.inj h]

theorem Invocation.size_of_words {words : List Text} {i : Invocation}
    (reads : ofWords words = .ok i) :
    i.size = Zone.standard.size ∨ ∃ value, Numeral.parse? value = some i.size := by
  simp only [ofWords, bind, Except.bind] at reads
  split at reads
  · cases reads
  · rename_i options _
    cases asked : last? .size options.1 with
    | none =>
        rw [asked] at reads
        exact .inl (by grind)
    | some value =>
        rw [asked] at reads
        dsimp only at reads
        split at reads
        · cases reads
        · rename_i n parsed
          -- Whatever follows, the size that was read is the size kept.
          have kept : i.size = n := by grind
          exact .inr ⟨value, kept ▸ fitting_eq_ok parsed⟩

theorem Invocation.size_lt {words : List Text} {i : Invocation} (reads : ofWords words = .ok i) :
    i.size < (10 ^ Numeral.maxDigits : Nat) := by
  rcases size_of_words reads with standard | ⟨value, parsed⟩
  · have most : 10 ^ 2 ≤ 10 ^ Numeral.maxDigits := Nat.pow_le_pow_right (by decide) (by decide)
    rw [standard]
    change ((10 : Nat) : Int) < _
    omega
  · exact Numeral.parse?_lt parsed

theorem faultsFrom_eq (coloured : Bool) (source : Option Text) (n : Nat) {lines : List Text}
    (clear : ∀ line ∈ lines, Text.chomp line = line)
    (short : ∀ line ∈ lines, (Phrase.ofLine line).IsShort) :
    faultsFrom coloured source n lines =
      .ok ((Vocabulary.standard.mistakes n lines).map (Mistake.diagnostic coloured source)) := by
  induction lines generalizing n with
  | nil => rfl
  | cons line rest ih =>
      obtain ⟨whole, clear⟩ := List.forall_mem_cons.1 clear
      obtain ⟨first, short⟩ := List.forall_mem_cons.1 short
      have later := ih (n + 1) clear short
      cases read : Vocabulary.standard.read line with
      | ok c => simp [faultsFrom, Vocabulary.mistakes, Vocabulary.mistake?, read, later]
      | error refusal =>
          cases refusal with
          | mishap m =>
              have long := (Vocabulary.read_standard_mishap_iff.1 read).2
              exact absurd long first.not_isOverlong
          | fault f =>
              simp [faultsFrom, Vocabulary.mistakes, Vocabulary.mistake?, read, later, whole,
                Mistake.diagnostic, bind, Except.bind, pure, Except.pure]

def Invocation.settings (i : Invocation) (size : 0 < i.size) : Settings :=
  { Settings.standard with zone := ⟨i.size.toNat, by omega⟩, traced := i.traced }

def Invocation.stretch (i : Invocation) (size : 0 < i.size) (sources : Sources) : Stretch :=
  (i.settings size).process (i.coloured && i.traced) State.initial (i.source.stream sources)

section

variable {i : Invocation} (size : 0 < i.size)

theorem Invocation.zone_eq : Size.zone (.whole i.size) = .ok (i.settings size).zone := by
  rw [Size.zone, Zone.ofSize?, dif_pos (by omega : 0 < i.size.toNat)]
  rfl

theorem Invocation.isStandard_settings : (i.settings size).IsStandard := ⟨rfl, rfl, rfl⟩

theorem Invocation.size_settings_le (small : i.size < (10 ^ Numeral.maxDigits : Nat)) :
    (i.settings size).zone.size ≤ 10 ^ Numeral.maxDigits := by
  change i.size.toNat ≤ _
  omega

theorem run_eq :
    run i sources =
      let x := i.stretch size sources
      let shown := x.log.flatMap (showEntry (i.coloured && i.traced))
      let warnings := x.log.filterMap Entry.warning?
      match x.ending with
      | .stopped (.unreadable d) => ⟨1, shown ++ readFailure i.coloured d, warnings, none⟩
      | .stopped why => ⟨1, shown, warnings, some (.stop why)⟩
      | _ => ⟨0, shown, warnings, none⟩ := by
  unfold run
  rw [Invocation.zone_eq size]
  rfl

theorem run_of_finished (finished : (i.stretch size sources).ending = .finished) :
    run i sources =
      ⟨0, (i.stretch size sources).log.flatMap (showEntry (i.coloured && i.traced)),
        (i.stretch size sources).log.filterMap Entry.warning?, none⟩ := by
  rw [run_eq size]
  simp only [finished]

theorem run_of_lines (small : i.size < (10 ^ Numeral.maxDigits : Nat)) {lines : List Text}
    {source' : Option Text}
    (opens : (Feed.waiting (i.source.stream sources)).opens? = some source')
    (texts : (Feed.waiting (i.source.stream sources)).items (i.settings size) = lines.map .text)
    (short : ∀ line ∈ lines, (Phrase.ofLine line).IsShort) :
    (i.stretch size sources).ending = .finished ∧
      (i.stretch size sources).log.filterMap Entry.warning? =
        (Vocabulary.standard.mistakes 1 lines).map Mistake.notice ∧
      ((i.settings size).lineByLine ((i.settings size).opening State.initial source')
        lines).result = .ok (i.stretch size sources).outputs := by
  have passed := (Settings.passes_text_iff (Invocation.isStandard_settings size)
    (Invocation.size_settings_le size small)
    (Settings.opening_sound source' (State.Sound.initial _))).2
    fun line member => (short line member).not_isOverlong
  have finished : (i.stretch size sources).ending = .finished :=
    Settings.process_finished_iff.2 ⟨source', opens, texts ▸ passed⟩
  have upshot : (i.stretch size sources).upshot = (i.settings size).lineByLine
      ((i.settings size).opening State.initial source') lines :=
    (i.settings size).process_upshot _ State.initial opens texts
  have ok : ((i.settings size).lineByLine ((i.settings size).opening State.initial source')
      lines).result = .ok (i.stretch size sources).outputs := by
    rw [← upshot]
    exact ((i.settings size).process_whole_eq_ok_iff _ State.initial _).2 ⟨finished, rfl⟩
  have warnings := (i.settings size).lineByLine_warnings _ ok
  rw [← upshot] at warnings
  exact ⟨finished, warnings, ok⟩

include size in
theorem run_of_content (small : i.size < (10 ^ Numeral.maxDigits : Nat))
    (given : i.source.content? sources = some (name, content))
    (text : Encoding.utf8.decode content = .ok s)
    (short : ∀ line ∈ Text.fileLines s, (Phrase.ofLine line).IsShort) :
    (run i sources).status = 0 ∧ (run i sources).escape = none ∧
      (run i sources).warnings =
        (Vocabulary.standard.mistakes 1 (Text.fileLines s)).map Mistake.notice := by
  have stream := Source.stream_of_content given
  have opens : (Feed.waiting (i.source.stream sources)).opens? = some (some name) := by
    rw [stream]
    rfl
  have texts : (Feed.waiting (i.source.stream sources)).items (i.settings size) =
      (Text.fileLines s).map .text := by
    rw [stream]
    exact Encoding.fileItems_of_decode text
  obtain ⟨finished, warnings, -⟩ := run_of_lines size small opens texts short
  rw [run_of_finished size finished]
  exact ⟨rfl, rfl, warnings⟩

end

theorem verdictOn_eq_wellFormed_iff {coloured : Bool} {faults : List Diagnostic} :
    verdictOn coloured faults = wellFormed coloured ↔ faults = [] := by
  cases faults with
  | nil => exact iff_of_true rfl rfl
  | cons d others =>
      have failed : (verdictOn coloured (d :: others)).status = 1 := rfl
      refine iff_of_false (fun same => ?_) (List.cons_ne_nil d others)
      rw [same] at failed
      cases failed

/-- A run skips the malformed ones among the lines of a file, and a check reports those among the
lines of the text cut at every break. These are the same lines where the text has no breaks but line
ends; others, such as a vertical tab, are blanks for a run. -/
theorem check_as_run {words words' : List Text} {i j : Invocation}
    (runs : Invocation.ofWords words = .ok i) (isRun : i.task = .run) (size : 0 < i.size)
    (checks : Invocation.ofWords words' = .ok j) (isCheck : j.task = .check)
    (same : j.source = i.source) (given : i.source.content? sources = some (name, content))
    (text : Encoding.utf8.decode content = .ok s)
    (short : ∀ line ∈ Text.fileLines s ++ Text.lines (Text.uniformBreaks s),
      (Phrase.ofLine line).IsShort) :
    let skipped := Vocabulary.standard.mistakes 1 (Text.fileLines s)
    let reported := Vocabulary.standard.mistakes 1 (Text.lines (Text.uniformBreaks s))
    ((perform words sources).status = 0 ∧ (perform words sources).escape = none ∧
      (perform words sources).warnings = skipped.map Mistake.notice) ∧
    perform words' sources =
      verdictOn j.coloured (reported.map (Mistake.diagnostic j.coloured (some name))) ∧
    (s.HasOnlyLineEnds →
      reported = skipped ∧
        (perform words' sources = wellFormed j.coloured ↔
          (perform words sources).warnings = [])) := by
  intro skipped reported
  have performed : perform words sources = run i sources := by
    simp only [perform, runs, isRun]
  have ran := run_of_content size (Invocation.size_lt runs) given text fun line member =>
    short line (List.mem_append_left _ member)
  have checked : perform words' sources =
      verdictOn j.coloured (reported.map (Mistake.diagnostic j.coloured (some name))) := by
    have faults := faultsFrom_eq j.coloured (some name) 1
      (fun line member => Text.chomp_eq_self (Text.clear_of_mem_lines member))
      fun line member => short line (List.mem_append_right _ member)
    simp only [perform, checks, isCheck]
    rw [check_of_content (same ▸ given) text, checkLines, faults]
  rw [performed]
  refine ⟨ran, checked, fun plain => ?_⟩
  have agree : reported = skipped := by
    change Vocabulary.standard.mistakes 1 (Text.lines (Text.uniformBreaks s)) = skipped
    rw [Text.lines_uniformBreaks plain, Vocabulary.mistakes_map_chomp]
  refine ⟨agree, ?_⟩
  rw [checked, verdictOn_eq_wellFormed_iff, ran.2.2, List.map_eq_nil_iff, List.map_eq_nil_iff,
    agree]

def typed (s : Text) : Sources := ⟨fun _ => .error .missing, s.map fun c => UInt8.ofNat c.toNat⟩

theorem check_as_run_typed :
    ∃ (words words' : List Text) (s : Text) (i j : Invocation),
      Invocation.ofWords words = .ok i ∧ i.task = .run ∧ 0 < i.size ∧
      Invocation.ofWords words' = .ok j ∧ j.task = .check ∧ j.source = i.source ∧
      Encoding.utf8.decode (typed s).standard = .ok s ∧
      (∀ line ∈ Text.fileLines s ++ Text.lines (Text.uniformBreaks s),
        (Phrase.ofLine line).IsShort) ∧
      s.HasOnlyLineEnds ∧
      (perform words (typed s)).warnings =
        ["Skipping line 2:\"PIT 1, 1\": invalid argument 2 ' 1' for 'PIT', expected INT".toList] ∧
      (perform words' (typed s)).status = 1 := by
  let s : Text := "DEPLOY 0,0,NORTH\r\nPIT 1, 1\rREPORT\n".toList
  let words : List Text := ["--board-size".toList, "7".toList, "run".toList]
  let words' : List Text := ["--no-colors".toList, "check".toList]
  let i : Invocation := ⟨false, true, 7, .run, .standard⟩
  let j : Invocation := ⟨false, false, 10, .check, .standard⟩
  have runs : Invocation.ofWords words = .ok i := by decide +kernel
  have checks : Invocation.ofWords words' = .ok j := by decide +kernel
  have text : Encoding.utf8.decode (typed s).standard = .ok s := by decide +kernel
  have short : ∀ line ∈ Text.fileLines s ++ Text.lines (Text.uniformBreaks s),
      (Phrase.ofLine line).IsShort := by
    decide +kernel
  have plain : s.HasOnlyLineEnds := by decide +kernel
  have given : i.source.content? (typed s) = some (standardName, (typed s).standard) := rfl
  obtain ⟨⟨-, -, warned⟩, verdict, agree⟩ :=
    check_as_run runs rfl (by decide) checks rfl rfl given text short
  refine ⟨words, words', s, i, j, runs, rfl, by decide, checks, rfl, rfl, text, short, plain, ?_,
    ?_⟩
  · rw [warned]
    decide +kernel
  · rw [verdict, (agree plain).1]
    decide +kernel

/-- A vertical tab ends a line for a check and not for a run. -/
theorem check_passes_vertical_tab :
    perform ["--no-colors".toList, "check".toList] (typed "LEFT\x0bLEFT\n".toList) =
        wellFormed false ∧
      (perform ["--no-colors".toList, "run".toList] (typed "LEFT\x0bLEFT\n".toList)).warnings =
        ["Skipping line 1:\"LEFT\x0bLEFT\": 'LEFT' expects 0 argument(s) but got 1".toList] := by
  decide +kernel

end CommandLine

end Rover
