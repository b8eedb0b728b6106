import Rover.Proofs.PitHistory
import Rover.Proofs.Session

namespace Rover

open State

inductive Pace where
  | move
  | left
  | right
  deriving DecidableEq, Repr

def Pose.about (p : Pose) : Pose := ⟨p.cell, p.heading.left.left⟩

theorem Pose.about_about (p : Pose) : p.about.about = p := by
  obtain ⟨cell, heading⟩ := p
  cases heading <;> rfl

theorem Cell.ahead_about (c : Cell) (h : Heading) : (c.ahead h).ahead h.left.left = c := by
  cases h <;> simp [Cell.ahead, Heading.left]

namespace Pace

def command : Pace → Command
  | .move => .move
  | .left => .left
  | .right => .right

def taken : Pace → Pose → Pose
  | .move, p => ⟨p.cell.ahead p.heading, p.heading⟩
  | .left, p => ⟨p.cell, p.heading.left⟩
  | .right, p => ⟨p.cell, p.heading.right⟩

def opposite : Pace → Pace
  | .move => .move
  | .left => .right
  | .right => .left

/-- The paces of a walk backwards, with their turns exchanged, between two turns about. -/
def wayBack (walk : List Pace) : List Pace :=
  [.left, .left] ++ (walk.reverse.map opposite ++ [.left, .left])

theorem taken_opposite (pace : Pace) (p : Pose) :
    pace.opposite.taken (pace.taken p).about = p.about := by
  cases pace with
  | move => exact congrArg (Pose.mk · p.heading.left.left) (p.cell.ahead_about p.heading)
  | left => exact congrArg (Pose.mk p.cell) (p.heading.left.left.right_left)
  | right => exact congrArg (Pose.mk p.cell ·.left.left) p.heading.left_right

end Pace

inductive Walk (free : Cell → Prop) : Pose → List Pace → Pose → Prop
  | stay (p : Pose) : Walk free p [] p
  | cons {p q : Pose} {pace : Pace} {walk : List Pace} (clear : free (pace.taken p).cell)
      (rest : Walk free (pace.taken p) walk q) : Walk free p (pace :: walk) q

namespace Walk

variable {free : Cell → Prop} {p q r : Pose} {walk others : List Pace}

theorem append (first : Walk free p walk q) (second : Walk free q others r) :
    Walk free p (walk ++ others) r := by
  induction first with
  | stay p => exact second
  | cons clear _ ih => exact .cons clear (ih second)

theorem free_end (walked : Walk free p walk q) (start : free p.cell) : free q.cell := by
  induction walked with
  | stay p => exact start
  | cons clear _ ih => exact ih clear

theorem about (p : Pose) (start : free p.cell) : Walk free p [.left, .left] p.about :=
  .cons start (.cons start (.stay _))

theorem reverse (walked : Walk free p walk q) (start : free p.cell) :
    Walk free q.about (walk.reverse.map Pace.opposite) p.about := by
  induction walked with
  | stay p => exact .stay _
  | @cons p q pace walk clear _ ih =>
      rw [List.reverse_cons, List.map_append]
      apply (ih clear).append
      -- The last pace of the way back undoes the first pace of the walk.
      refine .cons ?_ ?_
      · rw [pace.taken_opposite]
        exact start
      · rw [pace.taken_opposite]
        exact .stay _

theorem wayBack (walked : Walk free p walk q) (start : free p.cell) :
    Walk free q (Pace.wayBack walk) p := by
  have home := about p.about start
  rw [p.about_about] at home
  exact (about q (walked.free_end start)).append ((walked.reverse start).append home)

end Walk

structure State.Stands (st : State) (p : Pose) (pits : Pits) : Prop where
  activated : st.activated = true
  position : st.position = some p.cell
  heading : st.heading = some p.heading
  pits : st.pits = pits

theorem State.Stands.pose? {st : State} {p : Pose} {pits : Pits} (stands : st.Stands p pits) :
    st.pose? = some p :=
  pose?_eq_some.2 ⟨stands.position, stands.heading⟩

theorem State.stands_of_pose? {st : State} {p : Pose} (on : st.activated = true)
    (here : st.pose? = some p) : st.Stands p st.pits :=
  ⟨on, (pose?_eq_some.1 here).1, (pose?_eq_some.1 here).2, rfl⟩

namespace Settings

def Blocked (s : Settings) (st : State) : Prop :=
  ∃ p, st.pose? = some p ∧ s.zone.verdict st.pits (p.cell.ahead p.heading) ≠ .free

def Unblocked (s : Settings) (st : State) (lines : List Text) (walk : List Pace) : Prop :=
  ∀ i, walk[i]? = some .move → ¬ s.Blocked (s.before st lines i)

variable {s : Settings} {st : State} {p q : Pose} {pits : Pits} {line : Text} {lines : List Text}
  {pace : Pace} {walk : List Pace}

theorem blocked_iff (stands : st.Stands p pits) :
    s.Blocked st ↔ s.zone.verdict pits (p.cell.ahead p.heading) ≠ .free := by
  simp [Blocked, stands.pose?, stands.pits]

theorem unblocked_cons :
    s.Unblocked st (line :: lines) (pace :: walk) ↔
      (pace = .move → ¬ s.Blocked st) ∧ s.Unblocked (s.execute st line).state lines walk := by
  constructor
  · intro unblocked
    exact ⟨fun move => unblocked 0 (congrArg some move), fun i => unblocked (i + 1)⟩
  · rintro ⟨first, rest⟩ i move
    cases i with
    | zero => exact first (Option.some.inj move)
    | succ i => exact rest i move

theorem tells_of_stands (all : s.TellsAll) (stands : st.Stands p pits)
    (inside : s.zone.Contains p.cell) : s.Tells st := by
  intro traced
  refine isTold_iff.2 fun on => ⟨by simp [stands.heading], fun cell here => ?_⟩
  obtain rfl := Option.some.inj (stands.position.symm.trans here)
  exact isWritable_of_contains (all traced) inside

theorem execute_of_stands (bare : s.overrides = Table.empty) {c : Command}
    (read : s.vocabulary.read line = .ok c) (stands : st.Stands p pits) :
    (s.Tells (s.execute st line).state →
      (s.execute st line).result = (s.obey (numbered st) c).result) ∧
      ∀ {output}, (s.obey (numbered st) c).result = .ok output →
        (s.execute st line).state =
          { (s.obey (numbered st) c).state with chain := Chain.after st.chain (some c) } := by
  rw [← s.respond_of_heeds (numbered st) bare (heeds_of_activated stands.activated c)]
  refine ⟨fun tells => ?_, (s.execute_of_read st read).2⟩
  rw [execute_result tells, deedOf, read]

theorem execute_move (bare : s.overrides = Table.empty)
    (read : s.vocabulary.read line = .ok .move) (stands : st.Stands p pits) :
    (s.Tells (s.execute st line).state → (s.execute st line).result =
        .ok (s.wording.onVerdict (s.zone.verdict pits (p.cell.ahead p.heading)))) ∧
      (s.execute st line).state.Stands
        (if s.zone.verdict pits (p.cell.ahead p.heading) = .free then Pace.move.taken p else p)
        pits := by
  have here : (numbered st).pose? = some p := stands.pose?
  have around : (numbered st).pits = pits := stands.pits
  obtain ⟨result, state⟩ := execute_of_stands bare read stands
  simp only [obey, advance, here, around] at result state
  cases verdict : s.zone.verdict pits (p.cell.ahead p.heading) with
  | free =>
      simp only [verdict] at result state
      refine ⟨result, ?_⟩
      rw [state rfl]
      exact ⟨stands.activated, rfl, stands.heading, rfl⟩
  | pit =>
      simp only [verdict] at result state
      refine ⟨result, ?_⟩
      rw [state rfl]
      exact ⟨stands.activated, stands.position, stands.heading, around⟩
  | outside =>
      simp only [verdict] at result state
      refine ⟨result, ?_⟩
      rw [state rfl]
      exact ⟨stands.activated, stands.position, stands.heading, around⟩

theorem execute_face (bare : s.overrides = Table.empty) {c : Command} {turn : Heading → Heading}
    (read : s.vocabulary.read line = .ok c) (stands : st.Stands p pits)
    (turns : s.obey (numbered st) c = face (numbered st) turn) :
    (s.Tells (s.execute st line).state → (s.execute st line).result = .ok none) ∧
      (s.execute st line).state.Stands ⟨p.cell, turn p.heading⟩ pits := by
  have looks : (numbered st).heading = some p.heading := stands.heading
  obtain ⟨result, state⟩ := execute_of_stands bare read stands
  simp only [turns, face, looks] at result state
  refine ⟨result, ?_⟩
  rw [state rfl]
  exact ⟨stands.activated, stands.position, rfl, stands.pits⟩

theorem execute_pace (bare : s.overrides = Table.empty)
    (read : s.vocabulary.read line = .ok pace.command) (stands : st.Stands p pits)
    (clear : s.zone.verdict pits (pace.taken p).cell = .free) :
    (s.Tells (s.execute st line).state → (s.execute st line).result = .ok none) ∧
      (s.execute st line).state.Stands (pace.taken p) pits := by
  cases pace with
  | move =>
      obtain ⟨result, after⟩ := execute_move bare read stands
      have clear : s.zone.verdict pits (p.cell.ahead p.heading) = .free := clear
      rw [clear] at result
      rw [if_pos clear] at after
      exact ⟨result, after⟩
  | left => exact execute_face bare read stands rfl
  | right => exact execute_face bare read stands rfl

theorem executeAll_cons (lines : List Text) {output : Option Text}
    (ok : (s.execute st line).result = .ok output) :
    (s.executeAll st (line :: lines)).1 = (s.executeAll (s.execute st line).state lines).1 ∧
      (s.executeAll st (line :: lines)).2.2 =
        (s.executeAll (s.execute st line).state lines).2.2.map (output :: ·) := by
  simp [executeAll, ok]

theorem executeAll_walk (bare : s.overrides = Table.empty) (all : s.TellsAll)
    (walked : Walk (s.zone.verdict pits · = .free) p walk q)
    (spelled : lines.map s.vocabulary.read = walk.map fun pace => .ok pace.command)
    (stands : st.Stands p pits) :
    (s.executeAll st lines).2.2 = .ok (lines.map fun _ => none) ∧
      (s.executeAll st lines).1.Stands q pits := by
  induction walked generalizing st lines with
  | stay p =>
      obtain rfl := List.map_eq_nil_iff.1 spelled
      exact ⟨rfl, stands⟩
  | cons clear _ ih =>
      obtain ⟨line, rest, rfl, read, spelled⟩ := List.map_eq_cons_iff.1 spelled
      obtain ⟨result, after⟩ := execute_pace bare read stands clear
      have inside := (Zone.verdict_eq_free_iff.1 clear).2
      obtain ⟨state, outputs⟩ := executeAll_cons rest (result (tells_of_stands all after inside))
      obtain ⟨silent, home⟩ := ih spelled after
      rw [state, outputs, silent]
      exact ⟨rfl, home⟩

theorem unblocked_iff_exists_walk (bare : s.overrides = Table.empty)
    (spelled : lines.map s.vocabulary.read = walk.map fun pace => .ok pace.command)
    (stands : st.Stands p pits) (start : s.zone.verdict pits p.cell = .free) :
    s.Unblocked st lines walk ↔ ∃ q, Walk (s.zone.verdict pits · = .free) p walk q := by
  induction walk generalizing st lines p with
  | nil => exact ⟨fun _ => ⟨p, .stay p⟩, fun _ i move => nomatch move⟩
  | cons pace walk ih =>
      obtain ⟨line, rest, rfl, read, spelled⟩ := List.map_eq_cons_iff.1 spelled
      rw [unblocked_cons, blocked_iff stands, ne_eq, not_not]
      constructor
      · rintro ⟨first, others⟩
        have clear : s.zone.verdict pits (pace.taken p).cell = .free := by
          cases pace with
          | move => exact first rfl
          | left => exact start
          | right => exact start
        obtain ⟨q, walked⟩ := (ih spelled (execute_pace bare read stands clear).2 clear).1 others
        exact ⟨q, .cons clear walked⟩
      · rintro ⟨q, _ | ⟨clear, walked⟩⟩
        refine ⟨?_, (ih spelled (execute_pace bare read stands clear).2 clear).2 ⟨q, walked⟩⟩
        rintro rfl
        exact clear

/-- A walk with no blocked move can be retraced: turned about, the robot goes the same way back and
ends as it began. -/
theorem executeAll_wayBack (bare : s.overrides = Table.empty) (all : s.TellsAll)
    (reached : s.Reaches st) (on : st.activated = true) {walk : List Pace} {there back : List Text}
    (spelled : there.map s.vocabulary.read = walk.map fun pace => .ok pace.command)
    (spelledBack : back.map s.vocabulary.read =
      (Pace.wayBack walk).map fun pace => .ok pace.command)
    (unblocked : s.Unblocked st there walk) :
    let onward := (s.executeAll st there).1
    let home := (s.executeAll onward back).1
    (s.executeAll onward back).2.2 = .ok (back.map fun _ => none) ∧
      s.Unblocked onward back (Pace.wayBack walk) ∧ home.activated = true ∧
      home.position = st.position ∧ home.heading = st.heading ∧ home.pits = st.pits := by
  intro onward home
  obtain ⟨p, here, start⟩ := reached.sound.exists_free_pose on
  have stands := stands_of_pose? on here
  obtain ⟨q, walked⟩ := (unblocked_iff_exists_walk bare spelled stands start).1 unblocked
  have retraced := walked.wayBack start
  have away : onward.Stands q st.pits := (executeAll_walk bare all walked spelled stands).2
  obtain ⟨silent, back⟩ := executeAll_walk bare all retraced spelledBack away
  refine ⟨silent, ?_, back.activated, ?_, ?_, back.pits⟩
  · exact (unblocked_iff_exists_walk bare spelledBack away (walked.free_end start)).2 ⟨p, retraced⟩
  · exact back.position.trans stands.position.symm
  · exact back.heading.trans stands.heading.symm

theorem executeAll_wayBack_round_pit :
    ∃ (st onward : State) (walk : List Pace) (there back : List Text),
      st = standard.after State.initial ["DEPLOY 1,0,EAST".toList, "PIT 3,0".toList] ∧
      walk = [.move, .left, .move, .right, .move] ∧
      there = ["MOVE".toList, "LEFT".toList, " MOVE\n".toList, "RIGHT".toList, "MOVE".toList] ∧
      back = ["LEFT".toList, "LEFT".toList, "MOVE".toList, "LEFT".toList, "MOVE ".toList,
        "RIGHT".toList, "MOVE".toList, "LEFT".toList, "LEFT".toList] ∧
      standard.TellsAll ∧ standard.Reaches st ∧ standard.Unblocked st there walk ∧
      onward = (standard.executeAll st there).1 ∧ onward.position = some ⟨3, 1⟩ ∧
      (standard.executeAll onward back).2.2 = .ok (back.map fun _ => none) ∧
      (standard.executeAll onward back).1.position = st.position ∧
      (standard.executeAll onward back).1.heading = st.heading ∧
      (standard.executeAll onward back).1.pits = st.pits ∧ ⟨3, 0⟩ ∈ st.pits := by
  let st : State := standard.after State.initial ["DEPLOY 1,0,EAST".toList, "PIT 3,0".toList]
  let walk : List Pace := [.move, .left, .move, .right, .move]
  let there : List Text :=
    ["MOVE".toList, "LEFT".toList, " MOVE\n".toList, "RIGHT".toList, "MOVE".toList]
  let back : List Text := ["LEFT".toList, "LEFT".toList, "MOVE".toList, "LEFT".toList,
    "MOVE ".toList, "RIGHT".toList, "MOVE".toList, "LEFT".toList, "LEFT".toList]
  have all : standard.TellsAll := fun traced => nomatch traced
  have reached : standard.Reaches st := Reaches.initial.replay _
  have spelled : there.map standard.vocabulary.read = walk.map fun pace => .ok pace.command := by
    decide +kernel
  have spelledBack : back.map standard.vocabulary.read =
      (Pace.wayBack walk).map fun pace => .ok pace.command := by
    decide +kernel
  have on : st.activated = true := by decide +kernel
  have stands : st.Stands ⟨⟨1, 0⟩, .east⟩ st.pits :=
    ⟨on, by decide +kernel, by decide +kernel, rfl⟩
  have walked : Walk (standard.zone.verdict st.pits · = .free) ⟨⟨1, 0⟩, .east⟩ walk
      ⟨⟨3, 1⟩, .east⟩ :=
    .cons (by decide +kernel) (.cons (by decide +kernel) (.cons (by decide +kernel)
      (.cons (by decide +kernel) (.cons (by decide +kernel) (.stay _)))))
  have unblocked : standard.Unblocked st there walk :=
    (unblocked_iff_exists_walk rfl spelled stands (by decide +kernel)).2 ⟨_, walked⟩
  obtain ⟨silent, -, -, position, heading, pits⟩ :=
    executeAll_wayBack rfl all reached on spelled spelledBack unblocked
  exact ⟨st, _, walk, there, back, rfl, rfl, rfl, rfl, all, reached, unblocked, rfl,
    (executeAll_walk rfl all walked spelled stands).2.position, silent, position, heading, pits,
    by decide +kernel⟩

end Settings

end Rover
