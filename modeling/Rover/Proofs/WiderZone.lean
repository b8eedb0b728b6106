import Rover.Proofs.PitHistory

namespace Rover

namespace Zone

variable {z wide : Zone} {pits : Pits} {c : Cell}

theorem Contains.wider (le : z.size ≤ wide.size) (inside : z.Contains c) : wide.Contains c := by
  obtain ⟨x, xlt, y, ylt⟩ := inside
  exact ⟨x, by omega, y, by omega⟩

theorem verdict_wider (le : z.size ≤ wide.size) (kept : z.verdict pits c ≠ .outside) :
    wide.verdict pits c = z.verdict pits c := by
  cases verdict : z.verdict pits c with
  | free =>
      obtain ⟨clear, inside⟩ := verdict_eq_free_iff.1 verdict
      exact verdict_eq_free_iff.2 ⟨clear, inside.wider le⟩
  | pit => exact verdict_eq_pit_iff.2 (verdict_eq_pit_iff.1 verdict)
  | outside => exact absurd verdict kept

end Zone

namespace Settings

def within (s : Settings) (zone : Zone) : Settings := { s with zone }

def target? (s : Settings) (st : State) (line : Text) : Option Cell :=
  match s.vocabulary.read line with
  | .ok (.deploy cell _) => some cell
  | .ok c =>
      if c.keyword = Verb.keyword .move ∧ st.activated = true then
        st.pose?.map fun p => p.cell.ahead p.heading
      else none
  | .error _ => none

/-- A deployment or a move to a cell outside the zone, where no pit is. -/
def Strays (s : Settings) (st : State) (line : Text) : Prop :=
  ∃ cell ∈ s.target? st line, s.zone.verdict st.pits cell = .outside

instance (s : Settings) (st : State) (line : Text) : Decidable (s.Strays st line) :=
  inferInstanceAs (Decidable (∃ cell ∈ s.target? st line, _))

def StaysIn (s : Settings) : State → List Text → Prop
  | _, [] => True
  | st, line :: rest => ¬ s.Strays st line ∧ s.StaysIn (s.execute st line).state rest

instance StaysIn.decidable (s : Settings) : ∀ st lines, Decidable (s.StaysIn st lines)
  | _, [] => isTrue trivial
  | st, line :: rest =>
      have := StaysIn.decidable s (s.execute st line).state rest
      inferInstanceAs (Decidable (¬ s.Strays st line ∧ _))

variable {s : Settings} {wide : Zone} {st : State} {c : Command} {line : Text} {lines : List Text}

theorem target?_deploy {cell : Cell} {heading : Heading}
    (read : s.vocabulary.read line = .ok (.deploy cell heading)) :
    s.target? st line = some cell := by
  rw [target?, read]

theorem target?_move (read : s.vocabulary.read line = .ok c)
    (named : c.keyword = Verb.keyword .move) (on : st.activated = true) {p : Pose}
    (here : st.pose? = some p) : s.target? st line = some (p.cell.ahead p.heading) := by
  rw [target?, read]
  cases c with
  | deploy cell heading => exact absurd named (show "DEPLOY".toList ≠ "MOVE".toList by decide)
  | _ => simp [named, on, here]

theorem land_within (le : s.zone.size ≤ wide.size) {cell : Cell} (heading : Heading)
    (kept : s.zone.verdict st.pits cell ≠ .outside) :
    (s.within wide).land st cell heading = s.land st cell heading := by
  have same : (s.within wide).zone.verdict st.pits cell = s.zone.verdict st.pits cell :=
    Zone.verdict_wider le kept
  unfold land
  rw [same]
  rfl

theorem advance_within (le : s.zone.size ≤ wide.size)
    (kept : ∀ p, st.pose? = some p → s.zone.verdict st.pits (p.cell.ahead p.heading) ≠ .outside) :
    (s.within wide).advance st = s.advance st := by
  unfold advance
  cases here : st.pose? with
  | none => rfl
  | some p =>
      have same : (s.within wide).zone.verdict st.pits (p.cell.ahead p.heading) =
          s.zone.verdict st.pits (p.cell.ahead p.heading) :=
        Zone.verdict_wider le (kept p here)
      dsimp only
      rw [same]
      rfl

theorem obeyKeyword_within {keyword : Text}
    (same : keyword = Verb.keyword .move → (s.within wide).advance st = s.advance st) :
    (s.within wide).obeyKeyword st keyword = s.obeyKeyword st keyword := by
  unfold obeyKeyword
  by_cases moves : keyword = Verb.keyword .move
  · rw [if_pos moves, if_pos moves, same moves]
  · rw [if_neg moves, if_neg moves]
    rfl

theorem obey_within (le : s.zone.size ≤ wide.size) (read : s.vocabulary.read line = .ok c)
    (heeded : heeds st c = true) (kept : ¬ s.Strays st line) :
    (s.within wide).obey st c = s.obey st c := by
  have same (named : c.keyword = Verb.keyword .move) (on : st.activated = true) :
      (s.within wide).advance st = s.advance st :=
    advance_within le fun p here outside => kept ⟨_, target?_move read named on here, outside⟩
  cases c with
  | deploy cell heading =>
      exact land_within le heading fun outside => kept ⟨cell, target?_deploy read, outside⟩
  | move => exact same rfl heeded
  | custom keyword arguments => exact obeyKeyword_within fun moves => same moves heeded
  | pit cell => rfl
  | left => rfl
  | right => rfl
  | report => rfl

theorem heed_within (le : s.zone.size ≤ wide.size) (kept : ¬ s.Strays st line) :
    (s.within wide).heed (numbered st) (s.vocabulary.read line) =
      s.heed (numbered st) (s.vocabulary.read line) := by
  cases read : s.vocabulary.read line with
  | error refusal => cases refusal <;> rfl
  | ok c =>
      have same : (s.within wide).respond (numbered st) c = s.respond (numbered st) c := by
        unfold respond
        split
        · rename_i heeded
          have kept : ¬ s.Strays (numbered st) line := kept
          rw [obey_within le read heeded kept]
          rfl
        · rfl
      simp only [heed, same]

theorem execute_within (le : s.zone.size ≤ wide.size) (kept : ¬ s.Strays st line) :
    (s.within wide).execute st line = s.execute st line := by
  have same : (s.within wide).heed (numbered st) ((s.within wide).vocabulary.read line) =
      s.heed (numbered st) (s.vocabulary.read line) :=
    heed_within le kept
  unfold execute
  dsimp only
  unfold numbered at same
  rw [same]
  rfl

theorem before_within (le : s.zone.size ≤ wide.size) (kept : s.StaysIn st lines) (i : Nat) :
    (s.within wide).before st lines i = s.before st lines i := by
  induction lines generalizing st i with
  | nil => simp only [before, List.take_nil, after_nil]
  | cons line rest ih =>
      obtain ⟨first, others⟩ := kept
      cases i with
      | zero => rfl
      | succ i =>
          change (s.within wide).before ((s.within wide).execute st line).state rest i =
            s.before (s.execute st line).state rest i
          rw [execute_within le first]
          exact ih others i

theorem StaysIn.not_strays (kept : s.StaysIn st lines) {i : Nat} (at_i : lines[i]? = some line) :
    ¬ s.Strays (s.before st lines i) line := by
  induction lines generalizing st i with
  | nil => cases at_i
  | cons first rest ih =>
      cases i with
      | zero =>
          obtain rfl := Option.some.inj at_i
          exact kept.1
      | succ i => exact ih kept.2 at_i

theorem advanceBy_within (le : s.zone.size ≤ wide.size) {coloured : Bool} {quota : Nat}
    {items : List Item}
    (kept :
      s.StaysIn st (s.linesOf (items.take (s.advanceBy coloured quota st items).taken))) :
    (s.within wide).advanceBy coloured quota st items =
      s.advanceBy coloured quota st items := by
  -- on the run in the narrow zone: both runs are in one state, and each line it reads stays in
  fun_induction advanceBy s coloured quota st items with
  | case1 st items => rw [advanceBy]
  | case2 st quota =>
      rw [advanceBy]
      rfl
  | case3 st quota item rest cause bad =>
      have bad : (s.within wide).lineOf item = .error (some cause) := bad
      rw [advanceBy, bad]
  | case4 st quota item rest bad =>
      have bad : (s.within wide).lineOf item = .error none := bad
      rw [advanceBy, bad]
  | case5 st quota item rest line holds turn c failed =>
      have held : (s.within wide).lineOf item = .ok line := holds
      rw [List.take_succ_cons, s.linesOf_cons_ok holds] at kept
      simp only [advanceBy, held, execute_within le kept.1]
      rw [failed]
  | case6 st quota item rest line holds turn ok ih =>
      have held : (s.within wide).lineOf item = .ok line := holds
      simp only [Stretch.preceded] at kept
      rw [List.take_succ_cons, s.linesOf_cons_ok holds] at kept
      simp only [advanceBy, held, execute_within le kept.1]
      rw [ok, ih kept.2]
  | case7 st quota item rest line holds turn output ok ih =>
      have held : (s.within wide).lineOf item = .ok line := holds
      simp only [Stretch.preceded] at kept
      rw [List.take_succ_cons, s.linesOf_cons_ok holds] at kept
      simp only [advanceBy, held, execute_within le kept.1]
      rw [ok, ih kept.2]

theorem begin_within (le : s.zone.size ≤ wide.size) {coloured : Bool} {quota : Nat}
    {items : List Item} {source : Option Text}
    (kept : s.StaysIn (s.opening st source)
      (s.linesOf (items.take (Feed.begin s coloured quota st items source).taken))) :
    Feed.begin (s.within wide) coloured quota st items source =
      Feed.begin s coloured quota st items source := by
  have opening : (s.within wide).opening st source = s.opening st source := rfl
  simp only [Feed.begin, opening, advanceBy_within le kept]
  rfl

/-- As long as no deployment or move strays, a run in a wider zone is the same in all that it leaves
and lets out, line by line. -/
theorem process_within (s : Settings) {wide : Zone} (le : s.zone.size ≤ wide.size) (st : State) :
    (∀ lines, s.StaysIn st lines → ∀ i,
      (s.within wide).before st lines i = s.before st lines i ∧
      ∀ line, lines[i]? = some line →
        (s.within wide).execute ((s.within wide).before st lines i) line =
          s.execute (s.before st lines i) line) ∧
    ∀ (coloured : Bool) (source : Option Text) (lines : List Text),
      let stream := Stream.given (.items (lines.map .text)) source
      let run := s.process coloured st stream
      s.StaysIn (s.opening st source) (lines.take run.taken) →
        (s.within wide).process coloured st stream = run := by
  refine ⟨fun lines kept i => ⟨before_within le kept i, fun line at_i => ?_⟩, ?_⟩
  · rw [before_within le kept i]
    exact execute_within le (kept.not_strays at_i)
  · intro coloured source lines stream run kept
    have opens : (Feed.waiting stream).opens? = some source := rfl
    have eq : run = Feed.begin s coloured ((lines.map Item.text).length + 1) st
        (lines.map .text) source := s.process_eq_begin coloured st opens
    have stays : s.StaysIn (s.opening st source)
        (s.linesOf ((lines.map Item.text).take run.taken)) := by
      rwa [← List.map_take, s.linesOf_text]
    rw [eq] at stays ⊢
    exact ((s.within wide).process_eq_begin coloured st opens).trans (begin_within le stays)

theorem process_within_beyond_wall :
    ∃ (s : Settings) (wide : Zone) (lines : List Text),
      s = { standard with zone := ⟨5, by decide⟩ } ∧ wide = Zone.standard ∧
      lines = ["DEPLOY 2,4,NORTH".toList, "PIT 2,5".toList, "PIT -1,99".toList, "PIT 2,4".toList,
        "MOVE".toList, "RIGHT".toList, "MOVE".toList, "REPORT".toList] ∧
      s.zone.size ≤ wide.size ∧ s.StaysIn State.initial lines ∧
      (s.within wide).before State.initial lines 8 = s.before State.initial lines 8 ∧
      ((s.within wide).process false State.initial
        (.given (.items (lines.map .text)) none)).outputs =
          ["ROBOT Detected: Ignored".toList, "PIT Detected: Ignored".toList,
            "3,4,EAST".toList] := by
  let s : Settings := { standard with zone := ⟨5, by decide⟩ }
  let lines : List Text := ["DEPLOY 2,4,NORTH".toList, "PIT 2,5".toList, "PIT -1,99".toList,
    "PIT 2,4".toList, "MOVE".toList, "RIGHT".toList, "MOVE".toList, "REPORT".toList]
  have le : s.zone.size ≤ Zone.standard.size := by decide
  have kept : s.StaysIn State.initial lines := by decide +kernel
  obtain ⟨steps, runs⟩ := process_within s le State.initial
  have taken : s.StaysIn (s.opening State.initial none)
      (lines.take (s.process false State.initial
        (.given (.items (lines.map .text)) none)).taken) := by
    decide +kernel
  refine ⟨s, Zone.standard, lines, rfl, rfl, rfl, le, kept, (steps lines kept 8).1, ?_⟩
  rw [runs false none lines taken]
  decide +kernel

end Settings

end Rover
