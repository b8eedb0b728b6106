import Rover.Proofs.Robustness
import Rover.Proofs.Turning
import Rover.Proofs.Writing

namespace Rover

open State

theorem Command.text_deploy (cell : Cell) (heading : Heading) :
    (Command.deploy cell heading).text =
      "DEPLOY ".toList ++ (cell.text ++ ',' :: heading.label) := by
  have written : (Command.deploy cell heading).text =
      "DEPLOY ".toList ++ (Numeral.ofInt cell.x ++ ([','] ++ (Numeral.ofInt cell.y
        ++ ([','] ++ (heading.label ++ []))))) := rfl
  rw [written, Cell.text, List.append_nil, List.append_assoc, List.append_assoc]
  rfl

namespace Settings

/-- Reports and deployments are the standard ones; what a blocked command is answered is free. -/
structure Replays (s : Settings) : Prop where
  vocabulary : s.vocabulary = Vocabulary.standard
  overrides : s.overrides = Table.empty
  report : s.wording.report = Wording.standard.report

variable {s : Settings} {st : State} {pose : Pose}

theorem Replays.reportOf (replays : s.Replays) (fits : pose.cell.IsWritable) :
    s.wording.reportOf pose = .ok (pose.cell.text ++ ',' :: pose.heading.label) :=
  (Wording.reportOf_standard replays.report pose).trans (if_pos fits)

theorem Replays.report_eq (replays : s.Replays) (on : st.activated = true)
    (here : st.pose? = some pose) (fits : pose.cell.IsWritable) :
    s.report st = .ok (some (pose.cell.text ++ ',' :: pose.heading.label)) := by
  simp only [Settings.report, on, here, replays.reportOf fits, if_true]

theorem Replays.execute_deploy (replays : s.Replays) (fits : pose.cell.IsWritable)
    (free : s.zone.verdict st.pits pose.cell = .free) :
    let turn := s.execute st (Command.deploy pose.cell pose.heading).text
    turn.result = .ok none ∧
      turn.state = { st with
        activated := true, position := some pose.cell, heading := some pose.heading, chain := true,
        lineNumber := st.lineNumber + 1 } := by
  have read : s.vocabulary.read (Command.deploy pose.cell pose.heading).text =
      .ok (.deploy pose.cell pose.heading) := by
    rw [replays.vocabulary]
    exact Vocabulary.read_text fits
  have lands := landing?_eq_some_iff.2 ⟨pose.cell, read, free⟩
  obtain ⟨result, cell, read', state⟩ := execute_landing replays.overrides lands
  obtain ⟨rfl, -⟩ := Command.deploy.inj (Except.ok.inj (read.symm.trans read'))
  exact ⟨result, state⟩

/-- A report, told to the robot as a deployment, changes nothing but the chain and the count of
lines; told to a fresh rover in a zone of the same size, it makes a robot that reports the same. -/
theorem execute_report (replays : s.Replays) (narrow : s.zone.size ≤ 10 ^ Numeral.maxDigits)
    (reached : s.Reaches st) (on : st.activated = true) :
    ∃ text, s.report st = .ok (some text) ∧
      (s.execute st ("DEPLOY ".toList ++ text)).result = .ok none ∧
      (s.execute st ("DEPLOY ".toList ++ text)).state =
        { st with chain := true, lineNumber := st.lineNumber + 1 } ∧
      ∀ fresh : Settings, fresh.Replays → fresh.zone = s.zone →
        let turn := fresh.execute State.initial ("DEPLOY ".toList ++ text)
        turn.result = .ok none ∧ fresh.report turn.state = .ok (some text) := by
  obtain ⟨pose, here, free⟩ := reached.sound.exists_free_pose on
  obtain ⟨position, heading⟩ := pose?_eq_some.1 here
  obtain ⟨-, inside⟩ := Zone.verdict_eq_free_iff.1 free
  have fits := isWritable_of_contains narrow inside
  refine ⟨_, replays.report_eq on here fits, ?_⟩
  rw [← Command.text_deploy]
  obtain ⟨silent, state⟩ := replays.execute_deploy fits free
  refine ⟨silent, ?_, fun fresh replays zone => ?_⟩
  · rw [state, ← on, ← position, ← heading]
  · have free : fresh.zone.verdict State.initial.pits pose.cell = .free :=
      Zone.verdict_eq_free_iff.2 ⟨Pits.not_mem_empty _, zone ▸ inside⟩
    obtain ⟨silent, state⟩ := replays.execute_deploy fits free
    refine ⟨silent, ?_⟩
    rw [state]
    exact replays.report_eq rfl (pose?_eq_some.2 ⟨rfl, rfl⟩) fits

theorem execute_report_after_turn :
    ∃ (st : State) (other : Settings),
      st = standard.replay State.initial
        [.line "DEPLOY 0,9,NORTH".toList, .line "PIT 3,3".toList, .line "RIGHT".toList,
          .line "MOVE".toList] ∧
      standard.Replays ∧ standard.zone.size ≤ 10 ^ Numeral.maxDigits ∧ standard.Reaches st ∧
      st.activated = true ∧ st.chain = false ∧ st.pits.size = 1 ∧
      standard.report st = .ok (some "1,9,EAST".toList) ∧
      (standard.execute st "DEPLOY 1,9,EAST".toList).state =
        { st with chain := true, lineNumber := 5 } ∧
      other = { standard with keepsState := true } ∧ other.Replays ∧
      other.report (other.execute State.initial "DEPLOY 1,9,EAST".toList).state =
        .ok (some "1,9,EAST".toList) := by
  let st : State := standard.replay State.initial
    [.line "DEPLOY 0,9,NORTH".toList, .line "PIT 3,3".toList, .line "RIGHT".toList,
      .line "MOVE".toList]
  let other : Settings := { standard with keepsState := true }
  have replays : standard.Replays := ⟨rfl, rfl, rfl⟩
  have narrow : standard.zone.size ≤ 10 ^ Numeral.maxDigits :=
    Nat.pow_le_pow_right (n := 10) (by decide) (by decide : 1 ≤ Numeral.maxDigits)
  have reached : standard.Reaches st := Reaches.initial.replay _
  have on : st.activated = true := by decide +kernel
  obtain ⟨text, told, -, state, again⟩ := execute_report replays narrow reached on
  have eq : standard.report st = .ok (some "1,9,EAST".toList) := by decide +kernel
  obtain rfl := Option.some.inj (Except.ok.inj (told.symm.trans eq))
  have counted : st.lineNumber + 1 = 5 := by decide +kernel
  rw [counted] at state
  exact ⟨st, other, rfl, replays, narrow, reached, on, by decide +kernel, by decide +kernel, eq,
    state, rfl, ⟨rfl, rfl, rfl⟩, (again other ⟨rfl, rfl, rfl⟩ rfl).2⟩

end Settings

end Rover
