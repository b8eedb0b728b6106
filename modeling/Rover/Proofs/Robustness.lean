import Rover.Proofs.Cutting
import Rover.Proofs.Ending
import Rover.Proofs.Reading
import Rover.Proofs.Report
import Rover.Proofs.Session
import Rover.Proofs.Telling

namespace Rover

open State

theorem Phrase.isOverlong_pit {a b : Text} (numeral : Numeral.IsNumeral a)
    (long : ¬ Numeral.Readable a) (other : Numeral.IsNumeral b) :
    (Phrase.ofLine ("PIT".toList ++ ([' '] ++ (a ++ ',' :: b)))).IsOverlong := by
  have clear : ∀ s ∈ [a, b], ∀ c ∈ s, Text.isBlank c = false ∧ c ≠ ',' := by
    simpa using ⟨Numeral.clear_of_isNumeral numeral, Numeral.clear_of_isNumeral other⟩
  have cut := ofLine_arguments (u := []) (v := []) (w := [' ']) (by simp)
    (by simp [Text.isBlank] : ∀ c ∈ "PIT".toList, Text.isBlank c = false) (by simp)
    (by simp [Text.isBlank]) (by simp) (by simp) clear (by simp [List.intercalate]) (by simp)
  have line : [] ++ ("PIT".toList ++ ([' '] ++ [','].intercalate [a, b])) ++ [] =
      "PIT".toList ++ ([' '] ++ (a ++ ',' :: b)) := by
    simp [List.intercalate]
  rw [line] at cut
  rw [cut]
  exact ⟨.pit, by decide, rfl, rfl, .inl ⟨rfl, numeral, long⟩⟩

theorem Numeral.isNumeral_replicate (n : Nat) : IsNumeral (List.replicate (n + 1) '1') := by
  refine ⟨by simp [unsigned, sign, List.replicate_succ], fun c member => ?_⟩
  rw [List.eq_of_mem_replicate (member : c ∈ List.replicate (n + 1) '1')]
  decide

def Item.IsLine : Item → Prop
  | .text _ => True
  | .raw _ => True
  | _ => False

def Stream.IsPlain : Stream → Prop
  | .given (.items items) _ => ∀ item ∈ items, item.IsLine
  | _ => True

def Stream.IsText : Stream → Prop
  | .given (.text _) _ => True
  | .given (.textStream _) _ => True
  | .given (.items items) _ => ∀ item ∈ items, ∃ line, item = .text line
  | _ => False

theorem Encoding.broken_not_mem_fileItems (e : Encoding) (content : Bytes) :
    Item.broken ∉ e.fileItems content := by
  unfold fileItems
  split <;> simp

theorem Stream.broken_not_mem {s : Settings} {stream : Stream} (plain : stream.IsPlain) :
    Item.broken ∉ (Feed.waiting stream).items s := by
  cases stream with
  | given input source =>
      cases input with
      | items items => exact fun member => plain _ member
      | _ => simp [Feed.items, Input.toItems]
  | file name content =>
      cases content with
      | ok content => exact s.encoding.broken_not_mem_fileItems content
      | error e => simp [Feed.items]

theorem Stream.IsText.exists_line {s : Settings} {stream : Stream} (text : stream.IsText)
    {item : Item} (member : item ∈ (Feed.waiting stream).items s) : ∃ line, item = .text line := by
  cases stream with
  | file name content => exact text.elim
  | given input source =>
      cases input with
      | text words =>
          obtain ⟨line, -, rfl⟩ := List.mem_map.1 member
          exact ⟨line, rfl⟩
      | textStream words =>
          obtain ⟨line, -, rfl⟩ := List.mem_map.1 member
          exact ⟨line, rfl⟩
      | items items => exact text item member
      | raw bytes => exact text.elim
      | rawStream bytes => exact text.elim

namespace Settings

structure IsStandard (s : Settings) : Prop where
  vocabulary : s.vocabulary = Vocabulary.standard
  wording : s.wording = { Wording.standard with extras := s.wording.extras }
  overrides : s.overrides = Table.empty

/-- The lines on which a standard rover fails, and how: a numeral is too long to be read, or a
coordinate is too long to be written, by a report or by the trace of the state that a line leads
to. -/
inductive Fatal (s : Settings) (st : State) (line : Text) : Crash → Prop
  | overlong (long : (Phrase.ofLine line).IsOverlong) : Fatal s st line (.unread .overlong)
  | unwritable {cell : Cell} (asked : s.vocabulary.read line = .ok .report)
      (here : st.position = some cell) (long : ¬ cell.IsWritable) :
      Fatal s st line (.template .malformed)
  | untold {c : Command} {cell : Cell} (traced : s.traced = true)
      (read : s.vocabulary.read line = .ok c) (other : c ≠ .report)
      (there : (s.execute st line).state.position = some cell) (long : ¬ cell.IsWritable) :
      Fatal s st line (.untold .overlong)

inductive Meets (s : Settings) (c : Crash) : State → List Item → Prop
  | here {st : State} {item : Item} {line : Text} (rest : List Item)
      (holds : s.lineOf item = .ok line) (fatal : s.Fatal st line c) : Meets s c st (item :: rest)
  | later {st : State} {item : Item} {line : Text} {rest : List Item}
      (holds : s.lineOf item = .ok line) (harmless : ∀ c, ¬ s.Fatal st line c)
      (next : Meets s c (s.execute st line).state rest) : Meets s c st (item :: rest)

variable (s : Settings) (st : State)

theorem land_ok (cell : Cell) (heading : Heading) :
    ∃ output, (s.land st cell heading).result = .ok output := by
  unfold land
  split <;> exact ⟨_, rfl⟩

theorem dig_ok (cell : Cell) : ∃ output, (s.dig st (some cell)).result = .ok output := by
  unfold dig
  split
  · dsimp only
    split <;> exact ⟨_, rfl⟩
  · exact ⟨_, rfl⟩

theorem advance_ok {pose : Pose} (here : st.pose? = some pose) :
    ∃ output, (s.advance st).result = .ok output := by
  unfold advance
  rw [here]
  dsimp only
  split <;> exact ⟨_, rfl⟩

theorem face_ok {heading : Heading} (here : st.heading = some heading)
    (turn : Heading → Heading) : ∃ output, (face st turn).result = .ok output := by
  unfold face
  rw [here]
  exact ⟨_, rfl⟩

variable {s st}

theorem report_error_iff (standard : s.IsStandard) {pose : Pose} (on : st.activated = true)
    (here : st.pose? = some pose) {c : Crash} :
    s.report st = .error c ↔ c = .template .malformed ∧ ¬ pose.cell.IsWritable := by
  unfold report
  rw [if_pos on, here]
  dsimp only
  rw [Wording.reportOf_standard (by rw [standard.wording])]
  by_cases short : pose.cell.IsWritable
  · simp [short]
  · simp [short, eq_comm]

theorem respond_error_iff (standard : s.IsStandard) (sound : Sound s.zone st) {c : Command}
    (listed : ∀ keyword arguments, c ≠ .custom keyword arguments) {crash : Crash} :
    (s.respond st c).result = .error crash ↔
      crash = .template .malformed ∧ c = .report ∧
        ∃ cell, st.position = some cell ∧ ¬ cell.IsWritable := by
  have harmless {result : Except Crash (Option Text)} (ok : ∃ output, result = .ok output)
      (ne : c ≠ .report) :
      result = .error crash ↔ crash = .template .malformed ∧ c = .report ∧
        ∃ cell, st.position = some cell ∧ ¬ cell.IsWritable := by
    obtain ⟨output, rfl⟩ := ok
    simp [ne]
  by_cases heeded : heeds st c = true
  · rw [s.respond_of_heeds st standard.overrides heeded]
    cases c with
    | deploy cell heading => exact harmless (s.land_ok st cell heading) (by simp)
    | pit cell => exact harmless (s.dig_ok st cell) (by simp)
    | custom keyword arguments => exact absurd rfl (listed keyword arguments)
    | move =>
        obtain ⟨pose, here⟩ := sound.exists_pose heeded
        exact harmless (s.advance_ok st here) (by simp)
    | left =>
        obtain ⟨pose, here⟩ := sound.exists_pose heeded
        exact harmless (face_ok st (pose?_eq_some.1 here).2 _) (by simp)
    | right =>
        obtain ⟨pose, here⟩ := sound.exists_pose heeded
        exact harmless (face_ok st (pose?_eq_some.1 here).2 _) (by simp)
    | report =>
        obtain ⟨pose, here⟩ := sound.exists_pose heeded
        have position := (pose?_eq_some.1 here).1
        simp only [obey, report_error_iff standard heeded here, position,
          Option.some.injEq, exists_eq_left', true_and]
  · have off : st.position = none := by
      by_contra stands
      have on := sound.position.2 stands
      cases c with
      | deploy cell heading => exact heeded rfl
      | _ => exact heeded on
    unfold respond
    rw [if_neg heeded]
    simp [off]

theorem deedOf_error_iff (standard : s.IsStandard) (sound : Sound s.zone st) {line : Text}
    {c : Crash} :
    (s.deedOf st line).result = .error c ↔
      c = .unread .overlong ∧ (Phrase.ofLine line).IsOverlong ∨
      c = .template .malformed ∧ s.vocabulary.read line = .ok .report ∧
        ∃ cell, st.position = some cell ∧ ¬ cell.IsWritable := by
  have mishap {m : Mishap} : s.vocabulary.read line = .error (.mishap m) ↔
      m = .overlong ∧ (Phrase.ofLine line).IsOverlong := by
    rw [standard.vocabulary]
    exact Vocabulary.read_standard_mishap_iff
  unfold deedOf
  cases read : s.vocabulary.read line with
  | error refusal =>
      cases refusal with
      | mishap m =>
          obtain ⟨rfl, long⟩ := mishap.1 read
          simp [long, eq_comm]
      | fault f =>
          have short : ¬ (Phrase.ofLine line).IsOverlong := fun long => by
            rw [mishap.2 ⟨rfl, long⟩] at read
            cases read
          simp [short]
  | ok command =>
      have short : ¬ (Phrase.ofLine line).IsOverlong := fun long => by
        rw [mishap.2 ⟨rfl, long⟩] at read
        cases read
      have listed := Vocabulary.ne_custom_of_read_standard (standard.vocabulary ▸ read)
      have sound : Sound s.zone (numbered st) :=
        ⟨sound.position, sound.heading, sound.inside, sound.bare⟩
      dsimp only
      rw [respond_error_iff standard sound listed]
      simp [short, numbered]

theorem position_of_report {line : Text} (asked : s.vocabulary.read line = .ok .report)
    (standard : s.IsStandard) : (s.execute st line).state.position = st.position := by
  obtain ⟨isOpen, state⟩ := s.execute_state_of_read st asked
  rw [state]
  by_cases heeded : heeds (numbered st) .report = true
  · rw [s.respond_of_heeds _ standard.overrides heeded]
    rfl
  · rw [s.respond_of_deaf _ heeded]
    rfl

theorem execute_error_iff (standard : s.IsStandard) (sound : Sound s.zone st) {line : Text}
    {c : Crash} : (s.execute st line).result = .error c ↔ s.Fatal st line c := by
  have after : Sound s.zone (s.execute st line).state := execute_sound line sound
  rw [execute_eq_error_iff, deedOf_error_iff standard sound]
  constructor
  · rintro ((⟨rfl, long⟩ | ⟨rfl, asked, cell, here, long⟩) |
      ⟨command, output, why, traced, read, ok, silent, rfl⟩)
    · exact .overlong long
    · exact .unwritable asked here long
    · obtain ⟨rfl, cell, there, long⟩ := after.summary_eq_error_iff.1 silent
      refine .untold traced read (fun asked => ?_) there long
      subst asked
      rw [position_of_report read standard] at there
      have failed := (deedOf_error_iff standard sound).2 (.inr ⟨rfl, read, cell, there, long⟩)
      cases failed.symm.trans ok
  · rintro (long | ⟨asked, here, long⟩ | ⟨traced, read, other, there, long⟩)
    · exact .inl (.inl ⟨rfl, long⟩)
    · exact .inl (.inr ⟨rfl, asked, _, here, long⟩)
    · cases ok : (s.deedOf st line).result with
      | ok output =>
          have silent := after.summary_eq_error_iff.2 ⟨rfl, _, there, long⟩
          exact .inr ⟨_, output, _, traced, read, rfl, silent, rfl⟩
      | error crash =>
          rcases (deedOf_error_iff standard sound).1 ok with ⟨rfl, long⟩ | ⟨rfl, asked, -⟩
          · have refused := Vocabulary.read_standard_mishap_iff.2 ⟨rfl, long⟩
            rw [← standard.vocabulary, read] at refused
            cases refused
          · obtain rfl := Except.ok.inj (read.symm.trans asked)
            exact absurd rfl other

theorem Fatal.overlong_of_small (small : s.zone.size ≤ 10 ^ Numeral.maxDigits)
    (sound : Sound s.zone st) {line : Text} {c : Crash} (fatal : s.Fatal st line c) :
    (Phrase.ofLine line).IsOverlong ∧ c = .unread .overlong := by
  cases fatal with
  | overlong long => exact ⟨long, rfl⟩
  | unwritable asked here long =>
      exact absurd (isWritable_of_contains small (sound.inside _ here).1) long
  | untold traced read other there long =>
      have after : Sound s.zone (s.execute st line).state := execute_sound line sound
      exact absurd (isWritable_of_contains small (after.inside _ there).1) long

theorem lineOf_eq_error_none {item : Item} : s.lineOf item = .error none ↔ item = .broken := by
  cases item with
  | text line => simp [lineOf]
  | raw line =>
      unfold lineOf
      dsimp only
      split <;> simp
  | unreadable cause => simp [lineOf]
  | broken => simp [lineOf]

theorem meets_iff (standard : s.IsStandard) (sound : Sound s.zone st) {coloured : Bool} {c : Crash}
    {items : List Item} :
    s.Meets c st items ↔ ∃ before item rest, items = before ++ item :: rest ∧ s.Passes st before ∧
      s.stopOf coloured (s.after st (s.linesOf before)) item = some (.crash c) := by
  constructor
  · intro meets
    induction meets with
    | here rest holds fatal =>
        refine ⟨[], _, rest, rfl, trivial, stopOf_eq_some.2 ⟨_, holds, ?_⟩⟩
        exact (execute_error_iff standard sound).2 fatal
    | @later st first line rest holds harmless next ih =>
        obtain ⟨before, item, rest, rfl, passed, stop⟩ := ih (execute_sound line sound)
        cases ok : (s.execute st line).result with
        | error c => exact absurd ((execute_error_iff standard sound).1 ok) (harmless c)
        | ok output =>
            refine ⟨first :: before, item, rest, rfl, ⟨line, output, holds, ok, passed⟩, ?_⟩
            rwa [s.linesOf_cons_ok holds]
  · rintro ⟨before, item, rest, rfl, passed, stop⟩
    induction before generalizing st with
    | nil =>
        obtain ⟨line, holds, failed⟩ := stopOf_eq_some.1 stop
        exact .here rest holds ((execute_error_iff standard sound).1 failed)
    | cons first before ih =>
        obtain ⟨line, output, holds, ok, passed⟩ := passed
        rw [s.linesOf_cons_ok holds] at stop
        refine .later holds (fun c fatal => ?_) (ih (execute_sound line sound) passed stop)
        rw [(execute_error_iff standard sound).2 fatal] at ok
        cases ok

/-- What stops a standard rover. A line stops it only as `Fatal` says, and else a run stops only for
input that cannot be opened or decoded. -/
theorem standard_stops (standard : s.IsStandard) (reached : s.Reaches st) (coloured : Bool) :
    (∀ line c, (s.execute st line).result = .error c ↔ s.Fatal st line c) ∧
    (s.zone.size ≤ 10 ^ Numeral.maxDigits → ∀ line c,
      s.Fatal st line c ↔ (Phrase.ofLine line).IsOverlong ∧ c = .unread .overlong) ∧
    ∀ stream : Stream, stream.IsPlain →
      ((s.process coloured st stream).ending = .finished ∨
        ∃ why, (s.process coloured st stream).ending = .stopped why) ∧
      (∀ c, (s.process coloured st stream).ending = .stopped (.crash c) ↔
        ∃ source, (Feed.waiting stream).opens? = some source ∧
          s.Meets c (s.opening st source) ((Feed.waiting stream).items s)) ∧
      ((s.process coloured st stream).ending = .stopped .broken ↔
        ∃ name, stream = .file name (.error .unusable)) ∧
      (∀ d, (s.process coloured st stream).ending = .stopped (.unreadable d) →
        (∃ name e, stream = .file name (.error e)) ∨
        ∃ item ∈ (Feed.waiting stream).items s, ∃ cause, s.lineOf item = .error (some cause)) ∧
      (stream.IsText → ∀ d, (s.process coloured st stream).ending ≠ .stopped (.unreadable d)) := by
  have sound := reached.sound
  refine ⟨fun line c => execute_error_iff standard sound, fun small line c => ?_,
    fun stream plain => ?_⟩
  · constructor
    · exact fun fatal => fatal.overlong_of_small small sound
    · rintro ⟨long, rfl⟩
      exact .overlong long
  have unreadable : ∀ d, (s.process coloured st stream).ending = .stopped (.unreadable d) →
      (∃ name e, stream = .file name (.error e)) ∨
      ∃ item ∈ (Feed.waiting stream).items s, ∃ cause, s.lineOf item = .error (some cause) := by
    intro d stopped
    rcases process_stopped_iff.1 stopped with
      ⟨name, e, eq, -⟩ | ⟨source, before, item, rest, -, split, -, stop⟩
    · exact .inl ⟨name, e, eq⟩
    · obtain ⟨cause, bad, -⟩ := stopOf_eq_some.1 stop
      exact .inr ⟨item, by rw [split]; simp, cause, bad⟩
  refine ⟨s.process_ends coloured st stream, fun c => ?_, ?_, unreadable, fun text d stopped => ?_⟩
  · rw [process_stopped_iff]
    constructor
    · rintro (⟨name, e, -, failed⟩ | ⟨source, before, item, rest, opens, split, passed, stop⟩)
      · unfold Feed.unopened at failed
        split at failed <;> cases failed
      · exact ⟨source, opens, (meets_iff standard (opening_sound source sound)).2
          ⟨before, item, rest, split, passed, stop⟩⟩
    · rintro ⟨source, opens, meets⟩
      obtain ⟨before, item, rest, split, passed, stop⟩ :=
        (meets_iff standard (opening_sound source sound)).1 meets
      exact .inr ⟨source, before, item, rest, opens, split, passed, stop⟩
  · rw [process_stopped_iff]
    constructor
    · rintro (⟨name, e, rfl, failed⟩ | ⟨source, before, item, rest, -, split, -, stop⟩)
      · cases e with
        | unusable => exact ⟨name, rfl⟩
        | _ => cases failed
      · obtain rfl := lineOf_eq_error_none.1 (stopOf_eq_some.1 stop)
        exact absurd (by rw [split]; simp) (Stream.broken_not_mem (s := s) plain)
    · rintro ⟨name, rfl⟩
      exact .inl ⟨name, .unusable, rfl, rfl⟩
  · rcases unreadable d stopped with ⟨name, e, rfl⟩ | ⟨item, member, cause, bad⟩
    · exact text
    · obtain ⟨line, rfl⟩ := text.exists_line member
      cases bad

theorem standard_stops_mixed :
    standard.IsStandard ∧ standard.Reaches State.initial ∧
    standard.zone.size ≤ 10 ^ Numeral.maxDigits ∧
    (∀ line c, (standard.execute State.initial line).result = .error c →
      (Phrase.ofLine line).IsOverlong) ∧
    ∃ stream : Stream, stream.IsPlain ∧
      (∃ d, (standard.process false State.initial stream).ending = .stopped (.unreadable d)) ∧
      (∃ item ∈ (Feed.waiting stream).items standard, ∃ cause,
        standard.lineOf item = .error (some cause)) ∧
      ¬ ∃ c, standard.Meets c (standard.opening State.initial none)
        ((Feed.waiting stream).items standard) := by
  let stream : Stream := .given (.items [.text "PIT +,1".toList, .raw [0x4D, 0xFF]]) none
  have small : standard.zone.size ≤ 10 ^ Numeral.maxDigits :=
    Nat.pow_le_pow_right (n := 10) (by decide) (by decide : 1 ≤ Numeral.maxDigits)
  have plain : stream.IsPlain := by
    simp [stream, Stream.IsPlain, Item.IsLine]
  obtain ⟨fails, fatal, stops⟩ := standard_stops (s := standard) ⟨rfl, rfl, rfl⟩ .initial false
  obtain ⟨-, crash, -, unreadable, -⟩ := stops stream plain
  have stopped : (standard.process false State.initial stream).ending = .stopped (.unreadable
      (Settings.unreadable false ⟨false, none, none, Pits.empty, false, 1, none⟩
        (Encoding.Flaw.mk .utf8 0xFF 1 1 .start).text)) := by
    decide +kernel
  refine ⟨⟨rfl, rfl, rfl⟩, .initial, small, fun line c failed => ?_, stream, plain, ⟨_, stopped⟩,
    ?_, ?_⟩
  · exact ((fatal small line c).1 ((fails line c).1 failed)).1
  · rcases unreadable _ stopped with ⟨name, e, failed⟩ | found
    · nomatch (failed : Stream.given _ _ = _)
    · exact found
  · rintro ⟨c, meets⟩
    cases stopped.symm.trans ((crash c).2 ⟨none, rfl, meets⟩)

theorem execute_overlong_pit :
    (standard.execute State.initial
      ("PIT".toList ++ ([' '] ++ (List.replicate 4301 '1' ++ ',' :: ['1'])))).result =
        .error (.unread .overlong) := by
  have long : ¬ Numeral.Readable (List.replicate (4300 + 1) '1') := by
    change ¬ (List.replicate (4300 + 1) '1').length ≤ Numeral.maxDigits
    rw [List.length_replicate]
    decide
  exact (execute_error_iff ⟨rfl, rfl, rfl⟩ (Sound.initial _)).2
    (.overlong (Phrase.isOverlong_pit (Numeral.isNumeral_replicate 4300) long (by decide)))

end Settings

end Rover
