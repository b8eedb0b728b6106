import Rover.Proofs.Checking
import Rover.Proofs.ReadFailure
import Rover.Proofs.Utf8

namespace Rover

namespace Encoding

variable {e : Encoding} {content : Bytes} {s : Text} {flaw : Flaw}

/-- The lines of a file of one chunk that come out before a flaw in it is met, `s` being the text up
to the flaw. -/
def Flaw.linesAhead (f : Flaw) (content : Bytes) (s : Text) : List Text :=
  if f.waits (content.drop f.position) then endedLines s else []

def Flaw.told (f : Flaw) (content : Bytes) : Text :=
  if f.waits (content.drop f.position) then { f with position := 0 }.text else f.text

theorem exists_decodeChunks_of_flaw (flawed : e.decodeUntilFlaw content = (s, some flaw)) :
    ∃ t met, e.decodeChunks [] (chunks content) = (t, some met) := by
  rcases decoded : e.decodeChunks [] (chunks content) with ⟨t, _ | met⟩
  · have whole := (decodeChunks_eq_decoded_iff _).1 decoded
    rw [flatten_chunks, List.nil_append, flawed] at whole
    cases whole
  · exact ⟨t, met, rfl⟩

theorem decodeChunks_of_small (small : content.length ≤ chunkSize)
    (flawed : e.decodeUntilFlaw content = (s, some flaw)) :
    e.decodeChunks [] (chunks content) =
      if flaw.waits (content.drop flaw.position) then (s, some { flaw with position := 0 })
      else ([], some flaw) := by
  have filled : content ≠ [] := by
    rintro rfl
    cases flawed
  rw [chunks_eq_singleton filled small, decodeChunks, List.nil_append, flawed]
  simp only [decodeChunks, decodeUntilFlaw_drop flawed, List.append_nil]

theorem met_of_small {t : Text} {met : Flaw} (small : content.length ≤ chunkSize)
    (flawed : e.decodeUntilFlaw content = (s, some flaw))
    (decoded : e.decodeChunks [] (chunks content) = (t, some met)) :
    endedLines t = flaw.linesAhead content s ∧ met.text = flaw.told content := by
  rw [decodeChunks_of_small small flawed] at decoded
  unfold Flaw.linesAhead Flaw.told
  split at decoded
  · rename_i waits
    obtain ⟨rfl, same⟩ := Prod.mk.inj decoded
    obtain rfl := Option.some.inj same
    simp only [waits, if_true, and_self]
  · rename_i passes
    obtain ⟨rfl, same⟩ := Prod.mk.inj decoded
    obtain rfl := Option.some.inj same
    rw [if_neg passes, if_neg passes]
    exact ⟨rfl, rfl⟩

theorem fileItems_of_met {t : Text} {met : Flaw}
    (decoded : e.decodeChunks [] (chunks content) = (t, some met)) :
    e.fileItems content = (endedLines t).map .text ++ [.unreadable met.text] := by
  rw [fileItems, decoded]

theorem decode_of_flaw (flawed : e.decodeUntilFlaw content = (s, some flaw)) :
    e.decode content = .error flaw := by
  unfold decode
  rw [flawed]

end Encoding

theorem FileError.exists_text?_of_ne (path : Text) {e : FileError} (known : e ≠ .unusable) :
    ∃ cause, e.text? path = some cause := by
  cases e with
  | unusable => exact absurd rfl known
  | _ => exact ⟨_, rfl⟩

namespace Settings

variable {s : Settings} {coloured : Bool} {quota quota' : Nat} {st : State} {item : Item}
  {before rest : List Item} {cause : Text} {stream : Stream} {source : Option Text}

theorem advanceBy_log_of_passes (coloured : Bool) (passed : s.Passes st before) :
    ∃ entries, ∀ rest quota, (before ++ rest).length < quota → ∃ left, rest.length < left ∧
      (s.advanceBy coloured quota st (before ++ rest)).log =
        entries ++ (s.advanceBy coloured left (s.after st (s.linesOf before)) rest).log := by
  induction before generalizing st with
  | nil => exact ⟨[], fun rest quota enough => ⟨quota, enough, rfl⟩⟩
  | cons item before ih =>
      obtain ⟨line, output, holds, ok, passed⟩ := passed
      obtain ⟨entries, all⟩ := ih passed
      refine ⟨(s.execute st line).entries ++ output.toList.map .output ++ entries,
        fun rest quota enough => ?_⟩
      obtain ⟨quota, rfl⟩ := Nat.exists_eq_add_one_of_ne_zero (Nat.ne_zero_of_lt enough)
      simp only [List.cons_append, List.length_cons, Nat.add_lt_add_iff_right] at enough
      rw [s.linesOf_cons_ok holds, List.cons_append, advanceBy]
      simp only [holds, ok]
      cases output with
      | none =>
          obtain ⟨left, more, log⟩ := all rest (quota + 1) (Nat.lt_succ_of_lt enough)
          exact ⟨left, more, by simp [Stretch.preceded, log]⟩
      | some output =>
          obtain ⟨left, more, log⟩ := all rest quota enough
          exact ⟨left, more, by simp [Stretch.preceded, log]⟩

theorem advanceBy_log_unread (passed : s.Passes st before)
    (bad : s.lineOf item = .error (some cause))
    (enough : (before ++ item :: rest).length < quota) (enough' : before.length < quota') :
    (s.advanceBy coloured quota st (before ++ item :: rest)).log
        ++ s.announce "*** INTERPRETING FINISHED".toList =
      (s.advanceBy coloured quota' st before).log := by
  obtain ⟨entries, all⟩ := advanceBy_log_of_passes coloured passed
  obtain ⟨left, more, unread⟩ := all (item :: rest) quota enough
  obtain ⟨left', more', read⟩ := all [] quota' (by simpa using enough')
  obtain ⟨left, rfl⟩ := Nat.exists_eq_add_one_of_ne_zero (Nat.ne_zero_of_lt more)
  obtain ⟨left', rfl⟩ := Nat.exists_eq_add_one_of_ne_zero (Nat.ne_zero_of_lt more')
  rw [List.append_nil] at read
  rw [unread, read, List.append_assoc]
  simp only [advanceBy, bad, List.nil_append]

theorem process_unread (coloured : Bool) (opens : (Feed.waiting stream).opens? = some source)
    (split : (Feed.waiting stream).items s = before ++ item :: rest)
    (passed : s.Passes (s.opening st source) before)
    (bad : s.lineOf item = .error (some cause)) :
    (s.process coloured st stream).ending =
        .stopped (.unreadable
          ⟨some ⟨some (before.length + 1), none, source⟩, .unreadable cause, coloured⟩) ∧
      (s.process coloured st stream).log ++ s.announce "*** INTERPRETING FINISHED".toList =
        (s.process coloured st (.given (.items before) source)).log := by
  constructor
  · obtain ⟨outputs, -, fails⟩ := fails_of_passes passed bad rest
    obtain ⟨number, name⟩ := fails.label
    have number : _ = before.length := number.trans (Nat.zero_add before.length)
    rw [← split] at fails
    obtain ⟨-, -, ending⟩ := (Feed.Stops.waiting opens fails).process
    rw [ending, unreadable, number, name]
    rfl
  · rw [process_eq_begin s coloured st opens, split]
    change s.announce _ ++ _ ++ _ = s.announce _ ++ _
    rw [List.append_assoc, advanceBy_log_unread passed bad (Nat.lt_succ_self _)
      (Nat.lt_succ_self _)]
    rfl

theorem meets_overlong (small : s.zone.size ≤ 10 ^ Numeral.maxDigits)
    (sound : State.Sound s.zone st) {lines : List Text} (rest : List Item)
    (long : ∃ line ∈ lines, (Phrase.ofLine line).IsOverlong) :
    s.Meets (.unread .overlong) st (lines.map .text ++ rest) := by
  induction lines generalizing st with
  | nil => simp at long
  | cons line lines ih =>
      by_cases first : (Phrase.ofLine line).IsOverlong
      · exact .here _ rfl (.overlong first)
      · have others : ∃ line ∈ lines, (Phrase.ofLine line).IsOverlong := by
          simpa [first] using long
        exact .later rfl (fun c fatal => first (fatal.overlong_of_small small sound).1)
          (ih (execute_sound line sound) others)

end Settings

namespace CommandLine

variable {sources : Sources} {name : Text} {content : Bytes} {s : Text} {flaw : Encoding.Flaw}
  {t : Text} {met : Encoding.Flaw} {i j : Invocation}

def unreadableReport (coloured inked : Bool) (line : Option Int) (source cause : Text) : Text :=
  readFailure coloured ⟨some ⟨line, none, some source⟩, .unreadable cause, inked⟩

theorem Source.last?_of_file {options : List (Choice × Text)} {path : Text}
    (file : ofOptions options = .file path) : last? .file options = some path := by
  unfold ofOptions at file
  split at file
  · rename_i found
    obtain rfl := Source.file.inj file
    exact (Option.filter_eq_some_iff.1 found).1
  · cases file
  · cases file

theorem Invocation.isUsable_of_words {words : List Text} {path : Text}
    (reads : ofWords words = .ok i) (file : i.source = .file path) : Folder.IsUsable path := by
  simp only [ofWords, bind, Except.bind] at reads
  -- With a size or without, an invocation is made only after the path was found usable.
  repeat' split at reads
  any_goals cases reads
  all_goals
    rename_i usable _
    rw [Source.last?_of_file file] at usable
    exact not_not.1 usable

section

variable (size : 0 < i.size)

theorem run_of_unreadable {d : Diagnostic}
    (stopped : (i.stretch size sources).ending = .stopped (.unreadable d)) :
    run i sources =
      ⟨1, (i.stretch size sources).log.flatMap (showEntry (i.coloured && i.traced))
          ++ readFailure i.coloured d,
        (i.stretch size sources).log.filterMap Entry.warning?, none⟩ := by
  rw [run_eq size]
  simp only [stopped]

theorem run_of_crash {c : Crash}
    (stopped : (i.stretch size sources).ending = .stopped (.crash c)) :
    (run i sources).escape = some (.stop (.crash c)) := by
  rw [run_eq size]
  simp only [stopped]

include size in
theorem run_unopened {path cause : Text} {e : FileError} (source : i.source = .file path)
    (failed : sources.openFile path = .error e) (told : e.text? path = some cause) :
    run i sources =
      ⟨1, unreadableReport i.coloured (i.coloured && i.traced) none path cause, [], none⟩ := by
  have stretch : i.stretch size sources = ⟨State.initial, [], [], 0, .stopped (.unreadable
      ⟨some ⟨none, none, some path⟩, .unreadable cause, i.coloured && i.traced⟩)⟩ := by
    rw [Invocation.stretch, source, Source.stream, failed]
    simp only [Settings.process, Feed.run, Feed.unopened, told]
  rw [run_of_unreadable size (congrArg Stretch.ending stretch), stretch]
  rfl

theorem run_undecodable (small : i.size < (10 ^ Numeral.maxDigits : Nat))
    (given : i.source.content? sources = some (name, content))
    (decoded : Encoding.utf8.decodeChunks [] (Encoding.chunks content) = (t, some met)) :
    let ahead := endedLines t
    let y := (i.settings size).process (i.coloured && i.traced) State.initial
      (.given (.items (ahead.map .text)) (some name))
    ((∀ line ∈ ahead, ¬ (Phrase.ofLine line).IsOverlong) →
      y.ending = .finished ∧
      ∃ log, log ++ (i.settings size).announce "*** INTERPRETING FINISHED".toList = y.log ∧
        run i sources =
          ⟨1, log.flatMap (showEntry (i.coloured && i.traced))
              ++ unreadableReport i.coloured (i.coloured && i.traced) (some (ahead.length + 1)) name
                met.text,
            log.filterMap Entry.warning?, none⟩) ∧
    ((∃ line ∈ ahead, (Phrase.ofLine line).IsOverlong) →
      (run i sources).escape = some (.stop (.crash (.unread .overlong)))) := by
  intro ahead y
  have standard := Invocation.isStandard_settings size
  have small := Invocation.size_settings_le size small
  have sound := Settings.opening_sound (s := i.settings size) (some name) (State.Sound.initial _)
  have stream := Source.stream_of_content given
  have opens : (Feed.waiting (i.source.stream sources)).opens? = some (some name) := by
    rw [stream]
    rfl
  have split : (Feed.waiting (i.source.stream sources)).items (i.settings size) =
      ahead.map .text ++ [.unreadable met.text] := by
    rw [stream]
    exact Encoding.fileItems_of_met decoded
  refine ⟨fun short => ?_, fun long => ?_⟩
  · have passed := (Settings.passes_text_iff standard small sound).2 short
    have finished : y.ending = .finished :=
      Settings.process_finished_iff.2 ⟨some name, rfl, passed⟩
    obtain ⟨stopped, log⟩ := Settings.process_unread (i.coloured && i.traced) opens split passed rfl
    rw [List.length_map] at stopped
    exact ⟨finished, _, log, run_of_unreadable size stopped⟩
  · have meets := Settings.meets_overlong small sound [.unreadable met.text] long
    rw [← split] at meets
    obtain ⟨before, item, rest, met, passed, stop⟩ :=
      (Settings.meets_iff standard sound).1 meets
    exact run_of_crash size (Settings.process_stopped_iff.2
      (.inr ⟨some name, before, item, rest, opens, met, passed, stop⟩))

end

theorem check_unopened {path cause : Text} {e : FileError} (source : j.source = .file path)
    (failed : sources.openFile path = .error e) (told : e.text? path = some cause) :
    check j sources = ⟨1, unreadableReport j.coloured j.coloured none path cause, [], none⟩ := by
  simp only [check, source, failed, told]
  rfl

theorem check_undecodable (given : j.source.content? sources = some (name, content))
    (flawed : Encoding.utf8.decodeUntilFlaw content = (s, some flaw)) :
    check j sources =
      if j.source = .standard then ⟨1, [], [], some .undecodable⟩
      else ⟨1, unreadableReport j.coloured j.coloured none name flaw.text, [], none⟩ := by
  have whole : wholeLines content = .error flaw := by
    rw [wholeLines, Encoding.decode_of_flaw flawed]
    rfl
  rcases Source.content?_cases given with ⟨source, opened⟩ | ⟨source, rfl, rfl⟩
  · rw [if_neg (by rw [source]; exact Source.noConfusion)]
    simp only [check, source, opened, whole]
    rfl
  · rw [if_pos source]
    simp only [check, source, whole]

/-- A source that cannot be opened is reported in the same way by a run and by a check. One that
cannot be decoded is reported by a run after the lines ahead of the bad bytes, unless one of these
lines breaks it off, and by a check of a file. A check of standard input lets the failure out. -/
theorem unreadable_run_and_checked {words words' : List Text}
    (runs : Invocation.ofWords words = .ok i) (isRun : i.task = .run) (size : 0 < i.size)
    (checks : Invocation.ofWords words' = .ok j) (isCheck : j.task = .check)
    (same : j.source = i.source)
    (usable : ∀ path, Folder.IsUsable path → sources.openFile path ≠ .error .unusable) :
    (∀ path e, i.source = .file path → sources.openFile path = .error e →
      ∃ cause, e.text? path = some cause ∧
        perform words sources =
          ⟨1, unreadableReport i.coloured (i.coloured && i.traced) none path cause, [], none⟩ ∧
        perform words' sources =
          ⟨1, unreadableReport j.coloured j.coloured none path cause, [], none⟩) ∧
    ∀ name content s flaw, i.source.content? sources = some (name, content) →
      Encoding.utf8.decodeUntilFlaw content = (s, some flaw) →
      ∃ t met, Encoding.utf8.decodeChunks [] (Encoding.chunks content) = (t, some met) ∧
      let ahead := endedLines t
      let y := (i.settings size).process (i.coloured && i.traced) State.initial
        (.given (.items (ahead.map .text)) (some name))
      (content.length ≤ Encoding.chunkSize →
        ahead = flaw.linesAhead content s ∧ met.text = flaw.told content) ∧
      ((∀ line ∈ ahead, ¬ (Phrase.ofLine line).IsOverlong) →
        y.ending = .finished ∧
        ∃ log, log ++ (i.settings size).announce "*** INTERPRETING FINISHED".toList = y.log ∧
          perform words sources =
            ⟨1, log.flatMap (showEntry (i.coloured && i.traced))
                ++ unreadableReport i.coloured (i.coloured && i.traced) (some (ahead.length + 1))
                  name met.text,
              log.filterMap Entry.warning?, none⟩) ∧
      ((∃ line ∈ ahead, (Phrase.ofLine line).IsOverlong) →
        (perform words sources).escape = some (.stop (.crash (.unread .overlong)))) ∧
      perform words' sources =
        if i.source = .standard then ⟨1, [], [], some .undecodable⟩
        else ⟨1, unreadableReport j.coloured j.coloured none name flaw.text, [], none⟩ := by
  have performed : perform words sources = run i sources := by
    simp only [perform, runs, isRun]
  have performed' : perform words' sources = check j sources := by
    simp only [perform, checks, isCheck]
  rw [performed, performed', ← same]
  refine ⟨fun path e source failed => ?_, fun name content s flaw given flawed => ?_⟩
  · have known : e ≠ .unusable := by
      rintro rfl
      exact usable path (Invocation.isUsable_of_words checks source) failed
    obtain ⟨cause, told⟩ := FileError.exists_text?_of_ne path known
    exact ⟨cause, told, run_unopened size (same ▸ source) failed told,
      check_unopened source failed told⟩
  · obtain ⟨t, met, decoded⟩ := Encoding.exists_decodeChunks_of_flaw flawed
    obtain ⟨short, long⟩ := run_undecodable size (Invocation.size_lt runs) (same ▸ given) decoded
    exact ⟨t, met, decoded, fun small => Encoding.met_of_small small flawed decoded, short, long,
      check_undecodable given flawed⟩

def undecodableSources : Sources where
  openFile path :=
    if path = "moves".toList then .ok (Text.utf8 "DEPLOY 6,2,EAST\nREPORT\nMO".toList ++ [0xC3])
    else .error .missing
  standard := [0xFF]

theorem unreadable_run_and_checked_truncated :
    ∃ (words words' : List Text) (i j : Invocation) (content : Bytes) (s : Text)
        (flaw : Encoding.Flaw),
      Invocation.ofWords words = .ok i ∧ i.task = .run ∧ 0 < i.size ∧
      Invocation.ofWords words' = .ok j ∧ j.task = .check ∧ j.source = i.source ∧
      (∀ path, Folder.IsUsable path → undecodableSources.openFile path ≠ .error .unusable) ∧
      i.source.content? undecodableSources = some ("moves".toList, content) ∧
      Encoding.utf8.decodeUntilFlaw content = (s, some flaw) ∧
      (∀ line ∈ flaw.linesAhead content s, ¬ (Phrase.ofLine line).IsOverlong) ∧
      (perform words undecodableSources).status = 1 ∧
      (perform words undecodableSources).escape = none ∧
      perform words' undecodableSources =
        ⟨1, "Error reading commands.\n".toList
            ++ "moves: input error: can't read input ('utf-8' codec can't decode byte 0xc3".toList
            ++ " in position 25: unexpected end of data)\n".toList, [], none⟩ := by
  let words : List Text := ["--no-colors".toList, "run".toList, "-f".toList, "moves".toList]
  let words' : List Text := ["--no-colors".toList, "check".toList, "-f".toList, "moves".toList]
  let i : Invocation := ⟨false, false, 10, .run, .file "moves".toList⟩
  let j : Invocation := ⟨false, false, 10, .check, .file "moves".toList⟩
  let s : Text := "DEPLOY 6,2,EAST\nREPORT\nMO".toList
  let flaw : Encoding.Flaw := ⟨.utf8, 0xC3, 25, 1, .truncated⟩
  have runs : Invocation.ofWords words = .ok i := by decide +kernel
  have checks : Invocation.ofWords words' = .ok j := by decide +kernel
  have usable : ∀ path, Folder.IsUsable path →
      undecodableSources.openFile path ≠ .error .unusable := by
    intro path _
    unfold undecodableSources
    dsimp only
    split <;> simp
  have given : i.source.content? undecodableSources =
      some ("moves".toList, Text.utf8 s ++ [0xC3]) := rfl
  have flawed : Encoding.utf8.decodeUntilFlaw (Text.utf8 s ++ [0xC3]) = (s, some flaw) := by
    decide +kernel
  have short : ∀ line ∈ flaw.linesAhead (Text.utf8 s ++ [0xC3]) s,
      ¬ (Phrase.ofLine line).IsOverlong := by
    have each : ∀ line ∈ flaw.linesAhead (Text.utf8 s ++ [0xC3]) s,
        (Phrase.ofLine line).IsShort := by decide +kernel
    exact fun line member => (each line member).not_isOverlong
  obtain ⟨-, undecodable⟩ :=
    unreadable_run_and_checked runs rfl (by decide) checks rfl rfl usable
  obtain ⟨t, met, -, small, reported, -, checked⟩ := undecodable _ _ _ _ given flawed
  have ahead := (small (by decide +kernel)).1
  obtain ⟨-, log, -, ran⟩ := reported (by rwa [ahead])
  refine ⟨words, words', i, j, _, s, flaw, runs, rfl, by decide, checks, rfl, rfl, usable, given,
    flawed, short, congrArg Outcome.status ran, congrArg Outcome.escape ran, checked.trans ?_⟩
  decide +kernel

/-- Bytes that a run reports, or a check of a file, a check of standard input lets out. -/
theorem check_lets_undecodable_out :
    Encoding.utf8.decode undecodableSources.standard = .error ⟨.utf8, 0xFF, 0, 1, .start⟩ ∧
    perform ["--no-colors".toList, "run".toList] undecodableSources =
      ⟨1, unreadableReport false false (some 1) standardName
          (Encoding.Flaw.mk .utf8 0xFF 0 1 .start).text, [], none⟩ ∧
    perform ["--no-colors".toList, "check".toList] undecodableSources =
      ⟨1, [], [], some .undecodable⟩ := by
  decide +kernel

end CommandLine

end Rover
