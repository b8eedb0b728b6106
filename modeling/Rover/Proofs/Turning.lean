import Mathlib.Dynamics.PeriodicPts.Defs
import Rover.Proofs.Footprint
import Rover.Proofs.PitHistory

namespace Rover

namespace Heading

def turned (h : Heading) (n : Int) : Heading := right^[(n % 4).toNat] h

theorem turned_neg_one (h : Heading) : h.turned (-1) = h.left := by
  cases h <;> rfl

theorem isPeriodicPt_right (h : Heading) : Function.IsPeriodicPt right 4 h := by
  cases h <;> rfl

theorem turned_turned (h : Heading) (m n : Int) : (h.turned m).turned n = h.turned (m + n) := by
  have count : ((n % 4).toNat + (m % 4).toNat) % 4 = ((m + n) % 4).toNat := by omega
  unfold turned
  rw [← Function.iterate_add_apply, ← (isPeriodicPt_right h).iterate_mod_apply, count]

end Heading

namespace Vocabulary

variable (v : Vocabulary)

def names (verb : Verb) (line : Text) : Bool :=
  match v.read line with
  | .ok c => c.keyword = verb.keyword
  | .error _ => false

def turns (lines : List Text) : Int :=
  lines.countP (v.names .right) - lines.countP (v.names .left)

theorem turns_cons (line : Text) (rest : List Text) :
    v.turns (line :: rest) = v.turns [line] + v.turns rest := by
  simp only [turns, List.countP_cons, List.countP_nil]
  omega

variable {v} {c : Command} {line : Text}

theorem turns_of_refused {refusal : Refusal} (refused : v.read line = .error refusal) :
    v.turns [line] = 0 := by
  simp [turns, names, refused]

theorem turns_of_read (read : v.read line = .ok c) :
    v.turns [line] =
      (if c.keyword = Verb.keyword .right then 1 else 0) -
        if c.keyword = Verb.keyword .left then 1 else 0 := by
  simp only [turns, List.countP_singleton, names, read, decide_eq_true_eq]
  split_ifs <;> rfl

end Vocabulary

namespace Settings

variable {s : Settings} {st : State} {c : Command} {line : Text} {lines : List Text}
  {heading : Heading}

def landing? (s : Settings) (st : State) (line : Text) : Option Heading :=
  match s.vocabulary.read line with
  | .ok (.deploy cell heading) =>
      if s.zone.verdict st.pits cell = .free then some heading else none
  | _ => none

structure LandsLast (s : Settings) (st : State) (earlier : List Text) (line : Text)
    (later : List Text) (heading : Heading) : Prop where
  lands : s.landing? (s.after st earlier) line = some heading
  last : ¬ s.Deployed (s.execute (s.after st earlier) line).state later later.length

theorem landing?_eq_some_iff :
    s.landing? st line = some heading ↔
      ∃ cell, s.vocabulary.read line = .ok (.deploy cell heading) ∧
        s.zone.verdict st.pits cell = .free := by
  unfold landing?
  constructor
  · intro lands
    split at lands
    · rename_i cell d read
      split at lands
      · obtain rfl := Option.some.inj lands
        exact ⟨cell, read, by assumption⟩
      · cases lands
    · cases lands
  · rintro ⟨cell, read, free⟩
    simp only [read, free, if_true]

theorem advance_heading (s : Settings) (st : State) :
    (s.advance st).state.heading = st.heading := by
  unfold advance
  split
  · rfl
  · split <;> rfl

theorem obeyKeyword_heading (s : Settings) (st : State) {keyword : Text}
    (notLeft : keyword ≠ Verb.keyword .left) (notRight : keyword ≠ Verb.keyword .right) :
    (s.obeyKeyword st keyword).state.heading = st.heading := by
  by_cases moves : keyword = Verb.keyword .move
  · subst moves
    exact s.advance_heading st
  · rw [s.obeyKeyword_state st (by simp [Verb.driving, moves, notLeft, notRight])]

theorem obey_heading (s : Settings) (st : State)
    (aloft : ∀ cell heading, c = .deploy cell heading → s.zone.verdict st.pits cell ≠ .free)
    (notLeft : c.keyword ≠ Verb.keyword .left) (notRight : c.keyword ≠ Verb.keyword .right) :
    (s.obey st c).state.heading = st.heading := by
  cases bare : c.cell? with
  | none =>
      rw [s.obey_eq_obeyKeyword st bare]
      exact s.obeyKeyword_heading st notLeft notRight
  | some cell =>
      cases c with
      | deploy cell heading =>
          have taken : ¬ (cell ∉ st.pits ∧ s.zone.Contains cell) := fun free =>
            aloft cell heading rfl (Zone.verdict_eq_free_iff.2 free)
          change (s.land st cell heading).state.heading = _
          rw [s.land_state st, if_neg taken]
      | pit cell =>
          change (s.dig st (some cell)).state.heading = _
          rw [s.dig_state st]
          split <;> rfl
      | _ => cases bare

theorem respond_heading (s : Settings) (st : State) (bare : s.overrides = Table.empty)
    (on : st.activated = true) (looks : st.heading = some heading)
    (aloft : ∀ cell heading, c = .deploy cell heading → s.zone.verdict st.pits cell ≠ .free) :
    (s.respond st c).state.heading =
      some (heading.turned ((if c.keyword = Verb.keyword .right then 1 else 0) -
        if c.keyword = Verb.keyword .left then 1 else 0)) := by
  by_cases right : c.keyword = Verb.keyword .right
  · have left : c.keyword ≠ Verb.keyword .left := by
      rw [right]
      decide
    rw [if_pos right, if_neg left, s.respond_of_driving st bare on (by rw [right]; decide), right]
    exact congrArg State.heading (face_state looks Heading.right)
  · by_cases left : c.keyword = Verb.keyword .left
    · rw [if_neg right, if_pos left, s.respond_of_driving st bare on (by rw [left]; decide), left]
      exact (congrArg State.heading (face_state looks Heading.left)).trans
        (congrArg some heading.turned_neg_one.symm)
    · rw [s.respond_of_heeds st bare (heeds_of_activated on c), s.obey_heading st aloft left right,
        if_neg right, if_neg left]
      exact looks

theorem execute_heading (bare : s.overrides = Table.empty) (on : st.activated = true)
    (looks : st.heading = some heading) (aloft : s.landing? st line = none) :
    (s.execute st line).state.heading =
      some (heading.turned (s.vocabulary.turns [line])) := by
  cases read : s.vocabulary.read line with
  | error refusal =>
      obtain ⟨isOpen, state⟩ := s.execute_state_of_refused st read
      rw [state, Vocabulary.turns_of_refused read]
      exact looks
  | ok c =>
      obtain ⟨isOpen, state⟩ := s.execute_state_of_read st read
      rw [state, Vocabulary.turns_of_read read]
      apply s.respond_heading (numbered st) bare on looks
      rintro cell d rfl free
      have lands : s.landing? st line = some d := landing?_eq_some_iff.2 ⟨cell, read, free⟩
      rw [aloft] at lands
      cases lands

theorem execute_landing (bare : s.overrides = Table.empty)
    (lands : s.landing? st line = some heading) :
    (s.execute st line).result = .ok none ∧
      ∃ cell, s.vocabulary.read line = .ok (.deploy cell heading) ∧
        (s.execute st line).state = { numbered st with
          activated := true, position := some cell, heading := some heading, chain := true } := by
  obtain ⟨cell, read, free⟩ := landing?_eq_some_iff.1 lands
  have free : s.zone.verdict (numbered st).pits cell = .free := free
  obtain ⟨result, state⟩ := s.execute_of_read st read
  rw [s.respond_of_heeds (numbered st) bare rfl] at result state
  simp only [obey, land, free] at result state
  refine ⟨?_, cell, read, state rfl⟩
  rw [result, tell_of_tells]
  exact fun _ => State.isTold_iff.2 fun _ => ⟨Option.some_ne_none heading, fun there same =>
    Option.some.inj same ▸ Vocabulary.isWritable_of_read_deploy read⟩

theorem execute_of_landing? (bare : s.overrides = Table.empty)
    (lands : s.landing? st line = some heading) :
    (s.execute st line).state.activated = true ∧
      (s.execute st line).state.heading = some heading := by
  obtain ⟨-, cell, -, state⟩ := execute_landing bare lands
  rw [state]
  exact ⟨rfl, rfl⟩

theorem deployed_cons :
    s.Deployed st (line :: lines) (lines.length + 1) ↔
      s.landing? st line ≠ none ∨ s.Deployed (s.execute st line).state lines lines.length := by
  rw [Option.ne_none_iff_exists']
  simp only [landing?_eq_some_iff]
  constructor
  · rintro ⟨j, lt, at_line, cell, heading, at_j, read, free⟩
    cases j with
    | zero =>
        obtain rfl := Option.some.inj at_j
        exact .inl ⟨heading, cell, read, free⟩
    | succ j => exact .inr ⟨j, by omega, at_line, cell, heading, at_j, read, free⟩
  · rintro (⟨heading, cell, read, free⟩ | ⟨j, lt, at_line, cell, heading, at_j, read, free⟩)
    · exact ⟨0, by omega, line, cell, heading, rfl, read, free⟩
    · exact ⟨j + 1, by omega, at_line, cell, heading, at_j, read, free⟩

theorem not_deployed_nil (s : Settings) (st : State) : ¬ s.Deployed st [] 0 := by
  rintro ⟨j, lt, -⟩
  exact Nat.not_lt_zero j lt

instance Deployed.decidable (s : Settings) :
    ∀ st lines, Decidable (s.Deployed st lines lines.length)
  | st, [] => isFalse (s.not_deployed_nil st)
  | st, line :: rest =>
      have := Deployed.decidable s (s.execute st line).state rest
      decidable_of_iff (s.landing? st line ≠ none ∨ _) deployed_cons.symm

theorem exists_landsLast (deployed : s.Deployed st lines lines.length) :
    ∃ earlier line later heading, lines = earlier ++ line :: later ∧
      s.LandsLast st earlier line later heading := by
  induction lines generalizing st with
  | nil => exact absurd deployed (s.not_deployed_nil st)
  | cons line rest ih =>
      -- a success in the rest comes after one on this line, so the rest is looked at first
      by_cases again : s.Deployed (s.execute st line).state rest rest.length
      · obtain ⟨earlier, last, later, heading, rfl, lands⟩ := ih again
        exact ⟨line :: earlier, last, later, heading, rfl, ⟨lands.lands, lands.last⟩⟩
      · rcases deployed_cons.1 deployed with first | deployed
        · obtain ⟨heading, lands⟩ := Option.ne_none_iff_exists'.1 first
          exact ⟨[], line, rest, heading, rfl, ⟨lands, again⟩⟩
        · exact absurd deployed again

theorem after_heading (bare : s.overrides = Table.empty) (on : st.activated = true)
    (looks : st.heading = some heading) (aloft : ¬ s.Deployed st lines lines.length) :
    (s.after st lines).heading = some (heading.turned (s.vocabulary.turns lines)) := by
  induction lines generalizing st heading with
  | nil => exact looks
  | cons line rest ih =>
      rw [List.length_cons, deployed_cons, not_or, not_not] at aloft
      obtain ⟨first, others⟩ := aloft
      have after := execute_heading bare on looks first
      have still : (s.execute st line).state.activated = true :=
        (activated_execute bare).2 (.inl on)
      rw [after_cons, ih still after others, Heading.turned_turned, ← Vocabulary.turns_cons]

/-- The heading is that of the last deployment which succeeded, turned by the turns that come after
it: no other line and no order of the turns matters. -/
theorem heading_of_landsLast (bare : s.overrides = Table.empty) (st : State) (lines : List Text) :
    (s.Deployed st lines lines.length →
      ∃ earlier line later heading, lines = earlier ++ line :: later ∧
        s.LandsLast st earlier line later heading) ∧
    ∀ earlier line later heading, lines = earlier ++ line :: later →
      s.LandsLast st earlier line later heading →
        let turned := heading.turned (later.countP (s.vocabulary.names .right) -
          later.countP (s.vocabulary.names .left))
        (s.after st lines).heading = some turned ∧
        ∀ (coloured : Bool) (before : State) (source : Option Text),
          let run := s.process coloured before (.given (.items (lines.map .text)) source)
          s.opening before source = st → run.ending = .finished →
            run.state.heading = some turned := by
  refine ⟨exists_landsLast, fun earlier line later heading split lands => ?_⟩
  intro turned
  have final : (s.after st lines).heading = some turned := by
    obtain ⟨on, looks⟩ := execute_of_landing? bare lands.lands
    rw [split, after_append, after_cons]
    exact after_heading bare on looks lands.last
  refine ⟨final, ?_⟩
  intro coloured before source run start finished
  have opens : (Feed.waiting (.given (.items (lines.map .text)) source)).opens? = some source := rfl
  have state : run.state = s.after (s.opening before source) (s.linesOf (lines.map .text)) :=
    process_state opens finished
  rw [state, start, s.linesOf_text]
  exact final

theorem heading_of_landsLast_redeployed :
    ∃ (st final : State) (earlier later : List Text) (line : Text),
      st = standard.opening State.initial none ∧
      earlier = ["DEPLOY 0,0,NORTH".toList, "LEFT".toList] ∧ line = "DEPLOY 2,2,WEST".toList ∧
      later = ["LEFT".toList, "DEPLOY 40,0,EAST".toList, "JUMP".toList, "LEFT".toList,
        "MOVE".toList, "RIGHT".toList, "LEFT".toList, "REPORT".toList, "LEFT".toList] ∧
      standard.overrides = Table.empty ∧ standard.LandsLast st earlier line later .west ∧
      final = (standard.process false State.initial
        (.given (.items ((earlier ++ line :: later).map .text)) none)).state ∧
      final.heading = some .north := by
  let st := standard.opening State.initial none
  let earlier := ["DEPLOY 0,0,NORTH".toList, "LEFT".toList]
  let later := ["LEFT".toList, "DEPLOY 40,0,EAST".toList, "JUMP".toList, "LEFT".toList,
    "MOVE".toList, "RIGHT".toList, "LEFT".toList, "REPORT".toList, "LEFT".toList]
  have lands : standard.LandsLast st earlier "DEPLOY 2,2,WEST".toList later .west :=
    ⟨by decide +kernel, by decide +kernel⟩
  have bare : standard.overrides = Table.empty := rfl
  have ends : (standard.process false State.initial
      (.given (.items ((earlier ++ "DEPLOY 2,2,WEST".toList :: later).map .text)) none)).ending =
        .finished := by
    decide +kernel
  obtain ⟨-, last⟩ :=
    heading_of_landsLast bare st (earlier ++ "DEPLOY 2,2,WEST".toList :: later)
  have turned := (last earlier _ later .west rfl lands).2 false State.initial none rfl ends
  refine ⟨st, _, earlier, later, _, rfl, rfl, rfl, rfl, bare, lands, rfl, turned.trans ?_⟩
  decide +kernel

end Settings

end Rover
