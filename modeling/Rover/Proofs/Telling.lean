import Rover.Proofs.Reading
import Rover.Proofs.Soundness

namespace Rover

theorem isWritable_of_contains {z : Zone} (narrow : z.size ≤ 10 ^ Numeral.maxDigits) {c : Cell}
    (inside : z.Contains c) : c.IsWritable := by
  obtain ⟨left, right, bottom, top⟩ := inside
  exact ⟨Numeral.writable_of_lt left (by omega), Numeral.writable_of_lt bottom (by omega)⟩

namespace State

def IsTold (st : State) : Prop := ∃ text, st.summary = .ok text

theorem isTold_iff {st : State} :
    st.IsTold ↔ (st.activated = true →
      st.heading ≠ none ∧ ∀ cell, st.position = some cell → cell.IsWritable) := by
  unfold IsTold summary
  cases st.activated with
  | false => simp
  | true =>
      cases st.heading with
      | none => simp
      | some heading =>
          cases st.position with
          | none => simp [cellText, bind, Except.bind, pure, Except.pure]
          | some cell =>
              by_cases short : cell.IsWritable <;>
                simp [cellText, short, bind, Except.bind, pure, Except.pure]

theorem isTold_congr {a b : State} (activated : a.activated = b.activated)
    (position : a.position = b.position) (heading : a.heading = b.heading) :
    a.IsTold ↔ b.IsTold := by
  rw [isTold_iff, isTold_iff, activated, position, heading]

theorem summary_error_of_not_isTold {st : State} (silent : ¬ st.IsTold) :
    ∃ why, st.summary = .error why := by
  cases told : st.summary with
  | error why => exact ⟨why, rfl⟩
  | ok text => exact absurd ⟨text, told⟩ silent

theorem Sound.summary_eq_error_iff {zone : Zone} {st : State} (sound : Sound zone st)
    {why : Untold} :
    st.summary = .error why ↔
      why = .overlong ∧ ∃ cell, st.position = some cell ∧ ¬ cell.IsWritable := by
  cases on : st.activated with
  | false =>
      have off : st.position = none := by
        by_contra stands
        rw [sound.position.2 stands] at on
        cases on
      simp [summary, on, off]
  | true =>
      obtain ⟨pose, here⟩ := sound.exists_pose on
      obtain ⟨position, heading⟩ := pose?_eq_some.1 here
      by_cases short : pose.cell.IsWritable <;>
        simp [summary, on, position, heading, cellText, short, bind, Except.bind, pure, Except.pure,
          eq_comm]

end State

def Crash.isUntold : Crash → Bool
  | .untold _ => true
  | _ => false

theorem Crash.isUntold_iff {c : Crash} : c.isUntold = true ↔ ∃ why, c = .untold why := by
  cases c <;> simp [isUntold]

theorem Crash.isUntold_eq_false_iff {c : Crash} :
    c.isUntold = false ↔ ∀ why, c ≠ .untold why := by
  cases c <;> simp [isUntold]

namespace Settings

/-- The trace, if it is on, can tell a state. -/
def Tells (s : Settings) (st : State) : Prop := s.traced = true → st.IsTold

def TellsAll (s : Settings) : Prop := s.traced = true → s.zone.size ≤ 10 ^ Numeral.maxDigits

variable {s : Settings} {st : State} {line : Text} {c : Command} {deed : Deed}

theorem tells_congr {a b : State} (activated : a.activated = b.activated)
    (position : a.position = b.position) (heading : a.heading = b.heading) :
    s.Tells a ↔ s.Tells b := by
  rw [Tells, Tells, State.isTold_congr activated position heading]

theorem tells_of_untraced (untraced : s.traced = false) (st : State) : s.Tells st := by
  intro traced
  rw [untraced] at traced
  cases traced

theorem tell_of_tells (tells : s.Tells deed.state) (reading : Except Refusal Command) :
    s.tell deed reading = deed.result := by
  cases reading with
  | error refusal => rfl
  | ok c =>
      unfold tell
      cases deed.result with
      | error crash => rfl
      | ok output =>
          cases traced : s.traced with
          | false => rfl
          | true =>
              obtain ⟨text, told⟩ := tells traced
              simp [told, bind, Except.bind, pure, Except.pure]

theorem tell_eq_ok_iff {output : Option Text} :
    s.tell deed (.ok c) = .ok output ↔ deed.result = .ok output ∧ s.Tells deed.state := by
  constructor
  · intro told
    by_cases tells : s.Tells deed.state
    · exact ⟨(tell_of_tells tells _).symm.trans told, tells⟩
    · obtain ⟨traced, silent⟩ := Classical.not_imp.1 tells
      obtain ⟨why, silent⟩ := State.summary_error_of_not_isTold silent
      unfold tell at told
      cases result : deed.result <;>
        simp [result, traced, silent, bind, Except.bind] at told
  · rintro ⟨ok, tells⟩
    rw [tell_of_tells tells, ok]

theorem tell_eq_error_iff {crash : Crash} :
    s.tell deed (.ok c) = .error crash ↔ deed.result = .error crash ∨
      ∃ output why, s.traced = true ∧ deed.result = .ok output ∧
        deed.state.summary = .error why ∧ crash = .untold why := by
  unfold tell
  cases deed.result with
  | error other => simp [bind, Except.bind]
  | ok output =>
      cases s.traced <;> cases deed.state.summary <;>
        simp [bind, Except.bind, pure, Except.pure, eq_comm]

theorem execute_told_iff :
    s.Tells (s.execute st line).state ↔ s.Tells (s.deedOf st line).state := by
  obtain ⟨isOpen, state⟩ := s.execute_state st line
  rw [state]
  exact tells_congr rfl rfl rfl

theorem execute_summary : (s.execute st line).state.summary = (s.deedOf st line).state.summary := by
  obtain ⟨isOpen, state⟩ := s.execute_state st line
  rw [state]
  rfl

theorem execute_result (tells : s.Tells (s.execute st line).state) :
    (s.execute st line).result = (s.deedOf st line).result := by
  rw [(s.execute_eq st line).1, tell_of_tells (execute_told_iff.1 tells)]

/-- A line gives its answer just if its deed does, and the trace, which tells the state after a
command, does not break off. -/
theorem execute_eq_ok_iff {output : Option Text} :
    (s.execute st line).result = .ok output ↔
      (s.deedOf st line).result = .ok output ∧
        ((∃ c, s.vocabulary.read line = .ok c) → s.Tells (s.execute st line).state) := by
  rw [(s.execute_eq st line).1, execute_told_iff]
  cases s.vocabulary.read line with
  | error refusal => simp [tell]
  | ok c => simp [tell_eq_ok_iff]

theorem deedOf_eq_ok {output : Option Text} (ok : (s.execute st line).result = .ok output) :
    (s.deedOf st line).result = .ok output := (execute_eq_ok_iff.1 ok).1

theorem execute_eq_error_iff {crash : Crash} :
    (s.execute st line).result = .error crash ↔
      (s.deedOf st line).result = .error crash ∨
        ∃ c output why, s.traced = true ∧ s.vocabulary.read line = .ok c ∧
          (s.deedOf st line).result = .ok output ∧
          (s.execute st line).state.summary = .error why ∧ crash = .untold why := by
  rw [(s.execute_eq st line).1, execute_summary]
  cases s.vocabulary.read line with
  | error refusal => simp [tell]
  | ok c => simp [tell_eq_error_iff]

theorem report_ne_untold (s : Settings) (st : State) (why : State.Untold) :
    s.report st ≠ .error (.untold why) := by
  unfold report
  split_ifs
  · split
    · simp
    · split <;> simp
  · simp

theorem respond_ne_untold (st : State) (c : Command) (why : State.Untold) :
    (s.respond st c).result ≠ .error (.untold why) := by
  have land (cell : Cell) (heading : Heading) :
      (s.land st cell heading).result ≠ .error (.untold why) := by
    unfold land
    split <;> simp
  have dig (cell? : Option Cell) : (s.dig st cell?).result ≠ .error (.untold why) := by
    unfold dig
    split_ifs
    · cases cell? with
      | none => simp
      | some cell =>
          dsimp only
          split_ifs <;> simp
    · simp
  have advance : (s.advance st).result ≠ .error (.untold why) := by
    unfold advance
    split
    · simp
    · split <;> simp
  have face (turn : Heading → Heading) : (face st turn).result ≠ .error (.untold why) := by
    unfold face
    split <;> simp
  have obeyKeyword (keyword : Text) :
      (s.obeyKeyword st keyword).result ≠ .error (.untold why) := by
    unfold obeyKeyword
    split_ifs
    · exact advance
    · exact face _
    · exact face _
    · exact s.report_ne_untold st why
    · exact dig none
    · simp
    · simp
  unfold respond
  split_ifs
  · split
    · simp
    · cases c with
      | deploy cell heading => exact land cell heading
      | pit cell => exact dig (some cell)
      | move => exact advance
      | left => exact face _
      | right => exact face _
      | report => exact s.report_ne_untold st why
      | custom keyword arguments => exact obeyKeyword keyword
  · simp

theorem deedOf_ne_untold (st : State) (line : Text) (why : State.Untold) :
    (s.deedOf st line).result ≠ .error (.untold why) := by
  unfold deedOf
  split
  · simp
  · simp
  · exact respond_ne_untold _ _ why

/-- The trace breaks off just where it is on and cannot tell the state after a command that did not
fail. -/
theorem execute_untold_iff {why : State.Untold} :
    (s.execute st line).result = .error (.untold why) ↔
      s.traced = true ∧ (∃ c, s.vocabulary.read line = .ok c) ∧
        (∃ output, (s.deedOf st line).result = .ok output) ∧
        (s.execute st line).state.summary = .error why := by
  rw [execute_eq_error_iff]
  constructor
  · rintro (failed | ⟨c, output, why', traced, read, ok, silent, same⟩)
    · exact absurd failed (deedOf_ne_untold st line why)
    · obtain rfl := Crash.untold.inj same
      exact ⟨traced, ⟨c, read⟩, ⟨output, ok⟩, silent⟩
  · rintro ⟨traced, ⟨c, read⟩, ⟨output, ok⟩, silent⟩
    exact .inr ⟨c, output, why, traced, read, ok, silent, rfl⟩

theorem deedOf_eq_error {crash : Crash} (failed : (s.execute st line).result = .error crash)
    (early : crash.isUntold = false) : (s.deedOf st line).result = .error crash := by
  rcases execute_eq_error_iff.1 failed with done | ⟨c, output, why, -, -, -, -, rfl⟩
  · exact done
  · cases early

theorem execute_of_read (s : Settings) (st : State) (read : s.vocabulary.read line = .ok c) :
    (s.execute st line).result = s.tell (s.respond (numbered st) c) (.ok c) ∧
      ∀ {output}, (s.respond (numbered st) c).result = .ok output →
        (s.execute st line).state =
          { (s.respond (numbered st) c).state with chain := Chain.after st.chain (some c) } := by
  obtain ⟨result, state⟩ := s.execute_eq st line
  have deed : s.deedOf st line = s.respond (numbered st) c := by rw [deedOf, read]
  have told : Chain.command? s.vocabulary line = some c := by
    rw [Chain.command?, read]
    rfl
  rw [deed, read] at result
  rw [deed, told] at state
  refine ⟨result, fun ok => ?_⟩
  rw [state, ok]

theorem execute_move_untold (traced : s.traced = true) (bare : s.overrides = Table.empty)
    (read : s.vocabulary.read line = .ok .move) (on : st.activated = true) {p : Pose}
    (here : st.pose? = some p)
    (free : s.zone.verdict st.pits (p.cell.ahead p.heading) = .free)
    (long : ¬ (p.cell.ahead p.heading).IsWritable) :
    (s.execute st line).result = .error (.untold .overlong) ∧
      (s.execute st line).state.position = some (p.cell.ahead p.heading) := by
  have moved : s.deedOf st line =
      ⟨{ numbered st with position := some (p.cell.ahead p.heading) }, .ok none⟩ := by
    have heeded : heeds (numbered st) .move = true := on
    have here : (numbered st).pose? = some p := here
    simp only [deedOf, read, s.respond_of_heeds _ bare heeded, obey, advance, here]
    simp only [show (numbered st).pits = st.pits from rfl, free]
  have position : (s.execute st line).state.position = some (p.cell.ahead p.heading) := by
    obtain ⟨isOpen, state⟩ := s.execute_state st line
    rw [state, moved]
  refine ⟨execute_untold_iff.2 ⟨traced, ⟨_, read⟩, ⟨none, by rw [moved]⟩, ?_⟩, position⟩
  have looks : st.heading = some p.heading := (State.pose?_eq_some.1 here).2
  rw [execute_summary, moved]
  simp [State.summary, numbered, on, looks, State.cellText, long, bind, Except.bind]

theorem execute_chain {output : Option Text} (ok : (s.deedOf st line).result = .ok output) :
    (s.execute st line).state.chain =
      Chain.after st.chain (Chain.command? s.vocabulary line) := by
  rw [(s.execute_eq st line).2, ok]

end Settings

end Rover
