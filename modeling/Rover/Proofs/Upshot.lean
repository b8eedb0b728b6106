import Mathlib.Data.List.Basic
import Rover.Proofs.Alike
import Rover.Proofs.Ending

namespace Rover

/-- What came of lines: where they left the rover, the warnings, and the outputs or why there are
none. -/
structure Upshot where
  state : State
  warnings : List Text
  result : Except Stop (List Text)

namespace Upshot

def still (st : State) : Upshot := ⟨st, [], .ok []⟩

def andThen (u : Upshot) (next : State → Upshot) : Upshot :=
  match u.result with
  | .error _ => u
  | .ok outputs =>
      { state := (next u.state).state
        warnings := u.warnings ++ (next u.state).warnings
        result := (next u.state).result.map (outputs ++ ·) }

theorem andThen_error {u : Upshot} {why : Stop} (stopped : u.result = .error why)
    (next : State → Upshot) : u.andThen next = u := by
  unfold andThen
  rw [stopped]

theorem andThen_ok {u : Upshot} {outputs : List Text} (ok : u.result = .ok outputs)
    (next : State → Upshot) :
    u.andThen next =
      ⟨(next u.state).state, u.warnings ++ (next u.state).warnings,
        (next u.state).result.map (outputs ++ ·)⟩ := by
  unfold andThen
  rw [ok]

theorem andThen_result_eq_ok_iff {u : Upshot} {next : State → Upshot} {outputs : List Text} :
    (u.andThen next).result = .ok outputs ↔
      ∃ first second, u.result = .ok first ∧ (next u.state).result = .ok second ∧
        outputs = first ++ second := by
  cases head : u.result with
  | error why => simp [andThen_error head, head]
  | ok first =>
      rw [andThen_ok head]
      cases tail : (next u.state).result <;> simp [Except.map, eq_comm]

theorem still_andThen (st : State) (next : State → Upshot) :
    (still st).andThen next = next st := by
  rw [andThen_ok rfl]
  change (⟨(next st).state, (next st).warnings, (next st).result.map ([] ++ ·)⟩ : Upshot) = next st
  generalize next st = u
  obtain ⟨state, warnings, result⟩ := u
  cases result <;> rfl

theorem andThen_still (u : Upshot) : u.andThen still = u := by
  obtain ⟨state, warnings, result⟩ := u
  cases result with
  | error why => rfl
  | ok outputs =>
      rw [andThen_ok rfl]
      simp [still, Except.map]

theorem andThen_assoc (u : Upshot) (next after : State → Upshot) :
    (u.andThen next).andThen after = u.andThen fun st => (next st).andThen after := by
  cases first : u.result with
  | error why => rw [andThen_error first, andThen_error first, andThen_error first]
  | ok outputs =>
      rw [andThen_ok first, andThen_ok first]
      cases second : (next u.state).result with
      | error why => simp [andThen, second, Except.map]
      | ok more =>
          cases third : (after (next u.state).state).result <;>
            simp [andThen, second, third, Except.map]

end Upshot

def Turn.upshot (t : Turn) : Upshot :=
  { state := t.state
    warnings := t.warnings
    result :=
      match t.result with
      | .ok output => .ok output.toList
      | .error c => .error (.crash c) }

theorem Turn.upshot_of_error {t : Turn} {c : Crash} (failed : t.result = .error c) :
    t.upshot.result = .error (.crash c) := by
  rw [upshot, failed]

theorem Turn.upshot_of_ok {t : Turn} {output : Option Text} (ok : t.result = .ok output) :
    t.upshot.result = .ok output.toList := by
  rw [upshot, ok]

theorem Turn.exists_of_upshot {t : Turn} {outputs : List Text}
    (ok : t.upshot.result = .ok outputs) :
    ∃ output, t.result = .ok output ∧ outputs = output.toList := by
  unfold upshot at ok
  cases result : t.result with
  | error c =>
      rw [result] at ok
      cases ok
  | ok output =>
      rw [result] at ok
      exact ⟨output, rfl, (Except.ok.inj ok).symm⟩

theorem Turn.warnings_entries (t : Turn) : t.entries.filterMap Entry.warning? = t.warnings := by
  have trace : (Entry.warning? ∘ Entry.trace : Styled → Option Text) = fun _ => none := rfl
  have warning : (Entry.warning? ∘ Entry.warning : Text → Option Text) = some := rfl
  simp only [entries, List.filterMap_append, List.filterMap_map, trace, warning,
    List.filterMap_none, List.filterMap_some, List.nil_append]

theorem Turn.outputs_entries (t : Turn) : t.entries.filterMap Entry.output? = [] := by
  have trace : (Entry.output? ∘ Entry.trace : Styled → Option Text) = fun _ => none := rfl
  have warning : (Entry.output? ∘ Entry.warning : Text → Option Text) = fun _ => none := rfl
  simp only [entries, List.filterMap_append, List.filterMap_map, trace, warning,
    List.filterMap_none, List.append_nil]

def Stretch.upshot (x : Stretch) : Upshot := ⟨x.state, x.log.filterMap Entry.warning?, x.whole⟩

theorem Stretch.upshot_preceded (entries : List Entry) (x : Stretch) :
    (x.preceded entries).upshot =
      ⟨x.state, entries.filterMap Entry.warning? ++ x.upshot.warnings,
        x.whole.map (entries.filterMap Entry.output? ++ ·)⟩ := by
  unfold upshot whole preceded
  cases x.ending <;> simp [outputs, Except.map]

namespace Settings

variable (s : Settings)

def lineByLine : State → List Text → Upshot
  | st, [] => .still st
  | st, line :: rest => (s.execute st line).upshot.andThen fun st => lineByLine st rest

theorem lineByLine_single (st : State) (line : Text) :
    s.lineByLine st [line] = (s.execute st line).upshot :=
  Upshot.andThen_still _

theorem lineByLine_append (st : State) (first second : List Text) :
    s.lineByLine st (first ++ second) =
      (s.lineByLine st first).andThen fun st => s.lineByLine st second := by
  induction first generalizing st with
  | nil => exact (Upshot.still_andThen st fun st => s.lineByLine st second).symm
  | cons line rest ih =>
      simp only [List.cons_append, lineByLine, ih]
      exact (Upshot.andThen_assoc _ _ _).symm

variable {s} in
theorem lineByLine_cons {st : State} {line : Text} {output : Option Text}
    (ok : (s.execute st line).result = .ok output) (rest : List Text) :
    (s.lineByLine st (line :: rest)).state =
        (s.lineByLine (s.execute st line).state rest).state ∧
      (s.lineByLine st (line :: rest)).result =
        (s.lineByLine (s.execute st line).state rest).result.map (output.toList ++ ·) := by
  rw [lineByLine, Upshot.andThen_ok (Turn.upshot_of_ok ok)]
  exact ⟨rfl, rfl⟩

variable {s} in
theorem lineByLine_cons_ok {st : State} {line : Text} {rest outputs : List Text}
    (ok : (s.lineByLine st (line :: rest)).result = .ok outputs) :
    ∃ output later, (s.execute st line).result = .ok output ∧
      (s.lineByLine (s.execute st line).state rest).result = .ok later ∧
      outputs = output.toList ++ later := by
  obtain ⟨first, later, turned, rest, rfl⟩ := Upshot.andThen_result_eq_ok_iff.1 ok
  obtain ⟨output, answered, rfl⟩ := Turn.exists_of_upshot turned
  exact ⟨output, later, answered, rest, rfl⟩

variable {s} in
theorem lineByLine_state {st : State} {lines outputs : List Text}
    (ok : (s.lineByLine st lines).result = .ok outputs) :
    (s.lineByLine st lines).state = s.after st lines := by
  induction lines generalizing st outputs with
  | nil => rfl
  | cons line rest ih =>
      obtain ⟨output, later, answered, others, -⟩ := lineByLine_cons_ok ok
      exact (lineByLine_cons answered rest).1.trans (ih others)

theorem announce_silent (title : Text) :
    (s.announce title).filterMap Entry.warning? = [] ∧
      (s.announce title).filterMap Entry.output? = [] := by
  unfold announce
  split <;> exact ⟨rfl, rfl⟩

theorem advanceBy_upshot (coloured : Bool) {quota : Nat} (st : State) {items : List Item}
    {lines : List Text} (held : items.map s.lineOf = lines.map .ok)
    (enough : items.length < quota) :
    (s.advanceBy coloured quota st items).upshot = s.lineByLine st lines := by
  induction lines generalizing quota st items with
  | nil =>
      obtain rfl := List.map_eq_nil_iff.1 held
      obtain ⟨left, rfl⟩ : ∃ left, quota = left + 1 := ⟨quota - 1, by omega⟩
      obtain ⟨silent, mute⟩ := s.announce_silent "*** INTERPRETING FINISHED".toList
      simp only [advanceBy, Stretch.upshot, Stretch.whole, Stretch.outputs, silent, mute]
      rfl
  | cons line lines ih =>
      obtain ⟨item, rest, rfl, holds, others⟩ := List.map_eq_cons_iff.1 held
      obtain ⟨left, rfl⟩ : ∃ left, quota = left + 1 := ⟨quota - 1, by omega⟩
      simp only [List.length_cons, Nat.add_lt_add_iff_right] at enough
      simp only [advanceBy, holds, lineByLine]
      have warned := (s.execute st line).warnings_entries
      have mute := (s.execute st line).outputs_entries
      cases result : (s.execute st line).result with
      | error c =>
          rw [Upshot.andThen_error (Turn.upshot_of_error result)]
          simp [Stretch.upshot, Stretch.whole, Turn.upshot, warned, result]
      | ok output =>
          rw [Upshot.andThen_ok (Turn.upshot_of_ok result)]
          cases output with
          | none =>
              have enough : rest.length < left + 1 := by omega
              rw [← ih _ others enough]
              simp only [Stretch.upshot_preceded, warned, mute]
              rfl
          | some output =>
              rw [← ih _ others enough]
              simp only [Stretch.upshot_preceded, List.filterMap_append, warned, mute]
              simp [Entry.warning?, Entry.output?, Turn.upshot, Stretch.upshot]

theorem begin_upshot (coloured : Bool) (quota : Nat) (st : State) (items : List Item)
    (source : Option Text) :
    (Feed.begin s coloured quota st items source).upshot =
      (s.advanceBy coloured quota (s.opening st source) items).upshot := by
  obtain ⟨silent, mute⟩ := s.announce_silent "*** INTERPRETING STARTED".toList
  simp only [Feed.begin, Stretch.upshot, Stretch.whole, Stretch.outputs, List.filterMap_append,
    silent, mute, List.nil_append]

end Settings

structure Stream.Holds (stream : Stream) (s : Settings) (source : Option Text)
    (lines : List Text) : Prop where
  opens : (Feed.waiting stream).opens? = some source
  lines : ((Feed.waiting stream).items s).map s.lineOf = lines.map .ok

theorem Stream.holds_items (s : Settings) (source : Option Text) (lines : List Text) :
    (Stream.given (.items (lines.map .text)) source).Holds s source lines :=
  ⟨rfl, List.map_map⟩

namespace Settings

variable (s : Settings)

theorem process_of_holds (coloured : Bool) (st : State) {stream : Stream} {source : Option Text}
    {lines : List Text} (held : stream.Holds s source lines) :
    (s.process coloured st stream).upshot = s.lineByLine (s.opening st source) lines := by
  rw [process_eq_begin s coloured st held.opens, begin_upshot]
  exact s.advanceBy_upshot coloured _ held.lines (Nat.lt_succ_self _)

theorem process_whole_eq_ok_iff (coloured : Bool) (st : State) (stream : Stream)
    {outputs : List Text} :
    (s.process coloured st stream).whole = .ok outputs ↔
      (s.process coloured st stream).ending = .finished ∧
        (s.process coloured st stream).outputs = outputs := by
  unfold Stretch.whole
  rcases s.process_ends coloured st stream with finished | ⟨why, stopped⟩
  · simp [finished]
  · simp [stopped]

variable {s} in
theorem lineByLine_eq_ok_iff (coloured : Bool) (st : State) {stream : Stream}
    {source : Option Text} {lines outputs : List Text} (held : stream.Holds s source lines) :
    (s.lineByLine (s.opening st source) lines).result = .ok outputs ↔
      (s.process coloured st stream).ending = .finished ∧
        (s.process coloured st stream).outputs = outputs := by
  rw [← s.process_of_holds coloured st held]
  exact s.process_whole_eq_ok_iff coloured st stream

variable {s} in
theorem process_state_of_holds (coloured : Bool) (st : State) {stream : Stream}
    {source : Option Text} {lines : List Text} (held : stream.Holds s source lines) :
    (s.process coloured st stream).state = (s.lineByLine (s.opening st source) lines).state :=
  congrArg Upshot.state (s.process_of_holds coloured st held)

theorem process_upshot (coloured : Bool) (st : State) {stream : Stream} {source : Option Text}
    {lines : List Text} (opens : (Feed.waiting stream).opens? = some source)
    (texts : (Feed.waiting stream).items s = lines.map .text) :
    (s.process coloured st stream).upshot = s.lineByLine (s.opening st source) lines :=
  s.process_of_holds coloured st ⟨opens, texts ▸ List.map_map⟩

end Settings

end Rover
