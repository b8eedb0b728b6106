import Rover.Proofs.Session
import Rover.Proofs.Telling
import Rover.Proofs.Writing

namespace Rover

/-- The robot and the pits are the same: a line was counted, and the chain was told of it. -/
def State.Booked (before after : State) : Prop :=
  ∃ isOpen, after = { before with chain := isOpen, lineNumber := before.lineNumber + 1 }

def Verb.driving : List Text := [Verb.move, .left, .right].map Verb.keyword

namespace Settings

variable {s : Settings} {st target : State} {deed : Deed} {c : Command} {line : Text}

theorem state_of_result_ne (change : s.Change st deed) (told : deed.result ≠ .ok none) :
    deed.state = st := by
  cases change with
  | none => rfl
  | landed => exact absurd rfl told
  | advanced => exact absurd rfl told
  | turned => exact absurd rfl told
  | dug => exact absurd rfl told

theorem booked_of_deedOf_ne (told : (s.deedOf st line).result ≠ .ok none) :
    st.Booked (s.execute st line).state := by
  obtain ⟨isOpen, state⟩ := s.execute_state st line
  rw [state, state_of_result_ne (s.deedOf_change st line) told]
  exact ⟨isOpen, rfl⟩

theorem booked_of_result_ne (told : (s.execute st line).result ≠ .ok none)
    (whole : ∀ why, (s.execute st line).result ≠ .error (.untold why)) :
    st.Booked (s.execute st line).state := by
  refine booked_of_deedOf_ne fun silent => ?_
  rcases result : (s.execute st line).result with crash | output
  · cases early : crash.isUntold with
    | true =>
        obtain ⟨why, rfl⟩ := Crash.isUntold_iff.1 early
        exact whole why result
    | false => cases silent.symm.trans (deedOf_eq_error result early)
  · have same : output = none := Except.ok.inj ((deedOf_eq_ok result).symm.trans silent)
    exact told (result.trans (congrArg _ same))

theorem booked_of_refused {refusal : Refusal} (refused : s.vocabulary.read line = .error refusal) :
    st.Booked (s.execute st line).state :=
  s.execute_state_of_refused st refused

theorem booked_of_respond (read : s.vocabulary.read line = .ok c)
    (done : (s.respond (numbered st) c).state = numbered target) :
    target.Booked (s.execute st line).state := by
  obtain ⟨isOpen, state⟩ := s.execute_state_of_read st read
  rw [state, done]
  exact ⟨isOpen, rfl⟩

theorem booked_of_respond_ite {p : Prop} [Decidable p] {there here : State}
    (read : s.vocabulary.read line = .ok c)
    (done : (s.respond (numbered st) c).state = if p then numbered there else numbered here) :
    if p then there.Booked (s.execute st line).state
    else here.Booked (s.execute st line).state := by
  by_cases holds : p
  · rw [if_pos holds] at done ⊢
    exact booked_of_respond read done
  · rw [if_neg holds] at done ⊢
    exact booked_of_respond read done

theorem deaf_of_not_activated (off : st.activated = false)
    (others : ∀ cell heading, c ≠ .deploy cell heading) : ¬ heeds st c = true := by
  cases c with
  | deploy cell heading => exact absurd rfl (others cell heading)
  | _ => simp [heeds, off]

theorem booked_of_deaf (read : s.vocabulary.read line = .ok c)
    (deaf : ¬ heeds (numbered st) c = true) : st.Booked (s.execute st line).state :=
  booked_of_respond read (congrArg Deed.state (s.respond_of_deaf (numbered st) deaf))

theorem land_state (s : Settings) (st : State) (cell : Cell) (heading : Heading) :
    (s.land st cell heading).state =
      if cell ∉ st.pits ∧ s.zone.Contains cell then
        { st with activated := true, position := some cell, heading := some heading }
      else st := by
  rw [if_congr Zone.verdict_eq_free_iff.symm rfl rfl]
  unfold land
  split
  · rename_i free
    rw [if_pos free]
  · rename_i taken
    rw [if_neg taken]

theorem dig_state (s : Settings) (st : State) (cell : Cell) :
    (s.dig st (some cell)).state =
      if st.chain = true ∧ st.position ≠ some cell then
        { st with pits := st.pits.insert cell }
      else st := by
  unfold dig
  by_cases chain : st.chain = true <;> by_cases here : st.position = some cell <;>
    simp [chain, here]

theorem advance_state (s : Settings) {p : Pose} (here : st.pose? = some p) :
    (s.advance st).state =
      if p.cell.ahead p.heading ∉ st.pits ∧ s.zone.Contains (p.cell.ahead p.heading) then
        { st with position := some (p.cell.ahead p.heading) }
      else st := by
  rw [if_congr Zone.verdict_eq_free_iff.symm rfl rfl]
  simp only [advance, here]
  split
  · rename_i free
    rw [if_pos free]
  · rename_i taken
    rw [if_neg taken]

theorem face_state {heading : Heading} (looks : st.heading = some heading)
    (turn : Heading → Heading) :
    (face st turn).state = { st with heading := some (turn heading) } := by
  simp only [face, looks]

theorem obey_eq_obeyKeyword (s : Settings) (st : State) (bare : c.cell? = none) :
    s.obey st c = s.obeyKeyword st c.keyword := by
  cases c with
  | deploy cell heading => cases bare
  | pit cell => cases bare
  | _ => rfl

theorem obeyKeyword_state (s : Settings) (st : State) {keyword : Text}
    (other : keyword ∉ Verb.driving) : (s.obeyKeyword st keyword).state = st := by
  simp only [Verb.driving, List.map_cons, List.map_nil, List.mem_cons, List.not_mem_nil, or_false,
    not_or] at other
  obtain ⟨notMove, notLeft, notRight⟩ := other
  unfold obeyKeyword
  rw [if_neg notMove, if_neg notLeft, if_neg notRight]
  split_ifs
  · rfl
  · unfold dig
    split <;> rfl
  · rfl
  · rfl

theorem cell?_eq_none_of_driving (drives : c.keyword ∈ Verb.driving) : c.cell? = none := by
  cases c with
  | deploy cell heading => exact absurd drives (show "DEPLOY".toList ∉ Verb.driving by decide)
  | pit cell => exact absurd drives (show "PIT".toList ∉ Verb.driving by decide)
  | _ => rfl

theorem respond_of_driving (s : Settings) (st : State) (bare : s.overrides = Table.empty)
    (on : st.activated = true) (drives : c.keyword ∈ Verb.driving) :
    s.respond st c = s.obeyKeyword st c.keyword := by
  rw [s.respond_of_heeds st bare (heeds_of_activated on c),
    s.obey_eq_obeyKeyword st (cell?_eq_none_of_driving drives)]

theorem respond_state_of_other (s : Settings) (st : State) (bare : c.cell? = none)
    (other : c.keyword ∉ Verb.driving) : (s.respond st c).state = st := by
  unfold respond
  split
  · split
    · rfl
    · rw [s.obey_eq_obeyKeyword st bare, s.obeyKeyword_state st other]
  · rfl

theorem booked_deploy (bare : s.overrides = Table.empty) (st : State) {cell : Cell}
    {heading : Heading} (read : s.vocabulary.read line = .ok (.deploy cell heading)) :
    if cell ∉ st.pits ∧ s.zone.Contains cell then
      { st with activated := true, position := some cell, heading := some heading }.Booked
        (s.execute st line).state
    else st.Booked (s.execute st line).state := by
  apply booked_of_respond_ite read
  rw [s.respond_of_heeds (numbered st) bare rfl]
  exact s.land_state (numbered st) cell heading

theorem booked_pit (bare : s.overrides = Table.empty) (st : State) {cell : Cell}
    (read : s.vocabulary.read line = .ok (.pit cell)) :
    if st.activated = true ∧ st.chain = true ∧ st.position ≠ some cell then
      { st with pits := st.pits.insert cell }.Booked (s.execute st line).state
    else st.Booked (s.execute st line).state := by
  -- a pit is dug for a robot that hears of it, so the three conditions do not come from one test
  by_cases on : st.activated = true
  · have heeded : heeds (numbered st) (.pit cell) = true := on
    simp only [and_iff_right on]
    apply booked_of_respond_ite read
    rw [s.respond_of_heeds (numbered st) bare heeded]
    exact s.dig_state (numbered st) cell
  · have deaf : ¬ heeds (numbered st) (.pit cell) = true := on
    rw [if_neg fun dug => on dug.1]
    exact booked_of_deaf read deaf

theorem booked_move (bare : s.overrides = Table.empty) (read : s.vocabulary.read line = .ok c)
    (named : c.keyword = Verb.keyword .move) (on : st.activated = true) {p : Pose}
    (here : st.pose? = some p) :
    if p.cell.ahead p.heading ∉ st.pits ∧ s.zone.Contains (p.cell.ahead p.heading) then
      { st with position := some (p.cell.ahead p.heading) }.Booked (s.execute st line).state
    else st.Booked (s.execute st line).state := by
  have drives : c.keyword ∈ Verb.driving := by
    rw [named]
    decide
  have here : (numbered st).pose? = some p := here
  apply booked_of_respond_ite read
  rw [s.respond_of_driving (numbered st) bare on drives, named]
  exact s.advance_state here

theorem booked_turn (bare : s.overrides = Table.empty) (read : s.vocabulary.read line = .ok c)
    (drives : c.keyword ∈ Verb.driving) (on : st.activated = true) {turn : Heading → Heading}
    (turns : s.obeyKeyword (numbered st) c.keyword = face (numbered st) turn) {heading : Heading}
    (looks : st.heading = some heading) :
    { st with heading := some (turn heading) }.Booked (s.execute st line).state := by
  have looks : (numbered st).heading = some heading := looks
  apply booked_of_respond read
  rw [s.respond_of_driving (numbered st) bare on drives, turns]
  exact face_state looks turn

/-- The trace breaks off after a command that was done, on a cell too long to be written. -/
theorem Reaches.execute_untold_iff (reached : s.Reaches st) {why : State.Untold} :
    (s.execute st line).result = .error (.untold why) ↔
      s.traced = true ∧ (∃ c, s.vocabulary.read line = .ok c) ∧
        (∃ output, ({ s with traced := false }.execute st line).result = .ok output) ∧
        why = .overlong ∧
        ∃ cell, (s.execute st line).state.position = some cell ∧ ¬ cell.IsWritable := by
  have quiet : ({ s with traced := false }.execute st line).result = (s.deedOf st line).result :=
    execute_result (s := { s with traced := false }) (tells_of_untraced rfl _)
  have after : State.Sound s.zone (s.execute st line).state := execute_sound line reached.sound
  rw [Settings.execute_untold_iff, quiet, after.summary_eq_error_iff]

/-- A line that is answered, fails before the trace tells the state, is malformed or is not heeded
leaves the robot and the pits alone; any other changes just what its command is for. A trace that
breaks off leaves what was done, on a board with cells that are too long to be written. -/
theorem execute_footprint (bare : s.overrides = Table.empty) (st : State) (line : Text) :
    let after := (s.execute st line).state
    ((s.execute st line).result ≠ .ok none ∧
          (∀ why, (s.execute st line).result ≠ .error (.untold why)) ∨
        (∃ refusal, s.vocabulary.read line = .error refusal) ∨
        (st.activated = false ∧
          ∀ cell heading, s.vocabulary.read line ≠ .ok (.deploy cell heading)) →
      st.Booked after) ∧
    (s.Reaches st →
      (∀ why, (s.execute st line).result = .error (.untold why) ↔
        s.traced = true ∧ (∃ c, s.vocabulary.read line = .ok c) ∧
          (∃ output, ({ s with traced := false }.execute st line).result = .ok output) ∧
          why = .overlong ∧ ∃ cell, after.position = some cell ∧ ¬ cell.IsWritable) ∧
      (s.zone.size ≤ 10 ^ Numeral.maxDigits →
        ∀ why, (s.execute st line).result ≠ .error (.untold why))) ∧
    (∀ cell heading, s.vocabulary.read line = .ok (.deploy cell heading) →
      if cell ∉ st.pits ∧ s.zone.Contains cell then
        { st with activated := true, position := some cell, heading := some heading }.Booked after
      else st.Booked after) ∧
    (∀ cell, s.vocabulary.read line = .ok (.pit cell) →
      if st.activated = true ∧ st.chain = true ∧ st.position ≠ some cell then
        { st with pits := st.pits.insert cell }.Booked after
      else st.Booked after) ∧
    ∀ c, s.vocabulary.read line = .ok c →
      (c.keyword = Verb.keyword .move → st.activated = true → ∀ p, st.pose? = some p →
        if p.cell.ahead p.heading ∉ st.pits ∧ s.zone.Contains (p.cell.ahead p.heading) then
          { st with position := some (p.cell.ahead p.heading) }.Booked after
        else st.Booked after) ∧
      (c.keyword = Verb.keyword .left → st.activated = true → ∀ heading, st.heading = some heading →
        { st with heading := some heading.left }.Booked after) ∧
      (c.keyword = Verb.keyword .right → st.activated = true →
        ∀ heading, st.heading = some heading →
          { st with heading := some heading.right }.Booked after) ∧
      (c.cell? = none → c.keyword ∉ Verb.driving → st.Booked after) := by
  intro after
  refine ⟨?still, ?untold, ?deploy, ?pit, fun c read => ⟨?move, ?left, ?right, ?other⟩⟩
  case still =>
    rintro (⟨told, whole⟩ | ⟨refusal, refused⟩ | ⟨off, others⟩)
    · exact booked_of_result_ne told whole
    · exact booked_of_refused refused
    · cases read : s.vocabulary.read line with
      | error refusal => exact booked_of_refused read
      | ok c =>
          rw [read] at others
          have deaf : ¬ heeds (numbered st) c = true :=
            deaf_of_not_activated off fun cell heading same => others cell heading (congrArg _ same)
          exact booked_of_deaf read deaf
  case untold =>
    intro reached
    refine ⟨fun why => reached.execute_untold_iff, fun narrow why broke => ?_⟩
    obtain ⟨-, -, -, -, cell, there, long⟩ := reached.execute_untold_iff.1 broke
    have sound : State.Sound s.zone after := execute_sound line reached.sound
    exact long (isWritable_of_contains narrow (sound.inside cell there).1)
  case deploy => exact fun cell heading read => booked_deploy bare st read
  case pit => exact fun cell read => booked_pit bare st read
  case move => exact fun named on p here => booked_move bare read named on here
  case left =>
    intro named on heading looks
    have turns : s.obeyKeyword (numbered st) c.keyword = face (numbered st) Heading.left := by
      rw [named]
      rfl
    exact booked_turn bare read (by rw [named]; decide) on turns looks
  case right =>
    intro named on heading looks
    have turns : s.obeyKeyword (numbered st) c.keyword = face (numbered st) Heading.right := by
      rw [named]
      rfl
    exact booked_turn bare read (by rw [named]; decide) on turns looks
  case other =>
    intro bare other
    exact booked_of_respond read (s.respond_state_of_other (numbered st) bare other)

theorem execute_footprint_before_pit :
    ∃ (s : Settings) (st : State),
      s = { standard with wording := { Wording.standard with report := "\x7bz\x7d".toList } } ∧
      s.overrides = Table.empty ∧
      st = s.after State.initial ["DEPLOY 0,0,NORTH".toList, "PIT 0,2".toList, "MOVE".toList] ∧
      s.Reaches st ∧ st.position = some ⟨0, 1⟩ ∧ st.pits.cells = [⟨0, 2⟩] ∧
      (s.execute st "MOVE".toList).result = .ok (some "PIT Detected: Ignored".toList) ∧
      st.Booked (s.execute st "MOVE".toList).state ∧
      (s.execute st "REPORT".toList).result = .error (.template .unknownField) ∧
      st.Booked (s.execute st "REPORT".toList).state ∧
      { st with heading := some .west }.Booked (s.execute st "LEFT".toList).state ∧
      { st with activated := true, position := some ⟨9, 9⟩, heading := some .south }.Booked
        (s.execute st "DEPLOY 9,9,SOUTH".toList).state := by
  let s : Settings :=
    { standard with wording := { Wording.standard with report := "\x7bz\x7d".toList } }
  let st : State :=
    s.after State.initial ["DEPLOY 0,0,NORTH".toList, "PIT 0,2".toList, "MOVE".toList]
  have bare : s.overrides = Table.empty := rfl
  have blocked : (s.execute st "MOVE".toList).result = .ok (some "PIT Detected: Ignored".toList) :=
    by decide +kernel
  have failed : (s.execute st "REPORT".toList).result = .error (.template .unknownField) := by
    decide +kernel
  have stays := (execute_footprint bare st "MOVE".toList).1
    (.inl ⟨by rw [blocked]; simp, by rw [blocked]; simp⟩)
  have stays' := (execute_footprint bare st "REPORT".toList).1
    (.inl ⟨by rw [failed]; simp, by rw [failed]; simp⟩)
  have driven := (execute_footprint bare st "LEFT".toList).2.2.2.2 .left (by decide +kernel)
  have turned := driven.2.1 rfl (by decide +kernel) .north (by decide +kernel)
  have landed := (execute_footprint bare st "DEPLOY 9,9,SOUTH".toList).2.2.1 ⟨9, 9⟩ .south
    (by decide +kernel)
  rw [if_pos (by decide +kernel)] at landed
  exact ⟨s, st, rfl, bare, rfl, Reaches.initial.replay _, by decide +kernel, by decide +kernel,
    blocked, stays, failed, stays', turned, landed⟩

def broad (n : Nat) : Settings :=
  { standard with zone := ⟨n + 2, Nat.succ_pos _⟩, traced := true }

def deployAt (n : Nat) : Text := (Command.deploy ⟨n, 0⟩ .east).text

def landedAt (n : Nat) : State :=
  { State.initial with
    activated := true, position := some ⟨n, 0⟩, heading := some .east, chain := true,
    lineNumber := 1 }

theorem broad_deploy {n : Nat} (short : Numeral.Writable n) :
    ((broad n).execute State.initial (deployAt n)).result = .ok none ∧
      ((broad n).execute State.initial (deployAt n)).state = landedAt n := by
  have writable : Cell.IsWritable ⟨n, 0⟩ := ⟨short, show Numeral.Writable 0 by decide⟩
  have read : (broad n).vocabulary.read (deployAt n) = .ok (.deploy ⟨n, 0⟩ .east) :=
    Vocabulary.read_text (c := .deploy ⟨n, 0⟩ .east) writable
  have free : (broad n).zone.verdict (numbered State.initial).pits ⟨n, 0⟩ = .free := by
    rw [Zone.verdict_eq_free_iff]
    refine ⟨List.not_mem_nil, ?_⟩
    simp only [Zone.Contains, broad]
    omega
  have landed : (broad n).respond (numbered State.initial) (.deploy ⟨n, 0⟩ .east) =
      ⟨{ numbered State.initial with
        activated := true, position := some ⟨n, 0⟩, heading := some .east }, .ok none⟩ := by
    rw [(broad n).respond_of_heeds _ rfl rfl]
    simp only [obey, land, free]
  obtain ⟨result, state⟩ := (broad n).execute_of_read State.initial read
  rw [landed] at result state
  refine ⟨?_, state rfl⟩
  rw [result, tell_of_tells]
  intro traced
  rw [State.isTold_iff]
  simp [writable]

theorem broad_move {n : Nat} (long : ¬ Numeral.Writable (n + 1 : Nat)) :
    ((broad n).execute (landedAt n) "MOVE".toList).result = .error (.untold .overlong) ∧
      ((broad n).execute (landedAt n) "MOVE".toList).state.position = some ⟨n + 1, 0⟩ := by
  apply execute_move_untold (s := broad n) (p := ⟨⟨n, 0⟩, .east⟩) rfl rfl
    (Vocabulary.read_text (c := .move) trivial) rfl rfl
  · rw [Zone.verdict_eq_free_iff]
    refine ⟨List.not_mem_nil, ?_⟩
    simp only [Zone.Contains, broad, Cell.ahead]
    omega
  · exact fun writable => long writable.1

theorem broad_reaches {n : Nat} (short : Numeral.Writable n) :
    (broad n).Reaches (landedAt n) := by
  rw [← (broad_deploy short).2]
  exact .happen (.line (deployAt n)) .initial

theorem exists_last_writable :
    ∃ n : Nat, n + 1 = 10 ^ Numeral.maxDigits ∧ Numeral.Writable n ∧
      ¬ Numeral.Writable (n + 1 : Nat) := by
  obtain ⟨n, most⟩ := Nat.exists_eq_add_one.2 (Nat.pow_pos (by decide) : 0 < 10 ^ Numeral.maxDigits)
  refine ⟨n, most.symm, ?_, ?_⟩
  · rw [Numeral.writable_iff, Int.natAbs_natCast, most]
    exact Nat.lt_succ_self n
  · rw [Numeral.writable_iff, Int.natAbs_natCast, most]
    exact Nat.lt_irrefl _

/-- With the trace on, a step onto the first column that is too long to be written fails after the
robot moved. -/
theorem execute_moves_and_fails :
    ∃ (s : Settings) (st : State) (n : Nat),
      n + 1 = 10 ^ Numeral.maxDigits ∧ s = broad n ∧ s.overrides = Table.empty ∧
      st = s.after State.initial [deployAt n] ∧ s.Reaches st ∧ st.position = some ⟨n, 0⟩ ∧
      (s.execute st "MOVE".toList).result = .error (.untold .overlong) ∧
      (s.execute st "MOVE".toList).state.position = some ⟨n + 1, 0⟩ ∧
      ∃ output, ({ s with traced := false }.execute st "MOVE".toList).result = .ok output := by
  obtain ⟨n, most, short, long⟩ := exists_last_writable
  obtain ⟨broke, moved⟩ := broad_move long
  have reached := broad_reaches short
  obtain ⟨-, -, quiet, -⟩ := reached.execute_untold_iff.1 broke
  exact ⟨broad n, landedAt n, n, most, rfl, rfl, (broad_deploy short).2.symm, reached, rfl, broke,
    moved, quiet⟩

end Settings

end Rover
