import Rover.Proofs.Walking

namespace Rover

open State

namespace Cell

def along (c : Cell) (n : Nat) : Heading → Cell
  | .north => ⟨c.x, c.y + n⟩
  | .east => ⟨c.x + n, c.y⟩
  | .south => ⟨c.x, c.y - n⟩
  | .west => ⟨c.x - n, c.y⟩

theorem along_zero (c : Cell) (h : Heading) : c.along 0 h = c := by
  cases h <;> simp [along]

theorem along_succ (c : Cell) (n : Nat) (h : Heading) :
    c.along (n + 1) h = (c.ahead h).along n h := by
  cases h <;> simp only [along, ahead, Cell.mk.injEq, true_and, and_true] <;> omega

theorem along_one (c : Cell) (h : Heading) : c.along 1 h = c.ahead h := by
  rw [along_succ, along_zero]

end Cell

namespace Zone

variable {z : Zone} {pits : Pits} {p : Pose} {c : Cell}

/-- The number of cells straight ahead that are in the zone and no pits, up to the first that is
not. -/
def clearance (z : Zone) (pits : Pits) (p : Pose) : Nat :=
  (List.range z.size).findIdx fun n => z.verdict pits (p.cell.along (n + 1) p.heading) ≠ .free

theorem not_contains_along (inside : z.Contains c) (h : Heading) :
    ¬ z.Contains (c.along z.size h) := by
  cases h <;> simp only [Contains, Cell.along] at * <;> omega

theorem clearance_lt (pits : Pits) (inside : z.Contains p.cell) : z.clearance pits p < z.size := by
  have found : z.clearance pits p < (List.range z.size).length := by
    apply List.findIdx_lt_length.2
    refine ⟨z.size - 1, List.mem_range.2 (Nat.sub_lt z.positive Nat.one_pos), ?_⟩
    rw [Nat.sub_add_cancel z.positive, decide_eq_true_eq]
    intro free
    exact not_contains_along inside p.heading (verdict_eq_free_iff.1 free).2
  rwa [List.length_range] at found

theorem free_of_lt_clearance {n : Nat} (lt : n < z.clearance pits p) :
    z.verdict pits (p.cell.along (n + 1) p.heading) = .free := by
  have passed := List.not_of_lt_findIdx lt
  rwa [List.getElem_range, decide_eq_false_iff_not, ne_eq, not_not] at passed

theorem not_free_clearance (pits : Pits) (inside : z.Contains p.cell) :
    z.verdict pits (p.cell.along (z.clearance pits p + 1) p.heading) ≠ .free := by
  have lt : z.clearance pits p < (List.range z.size).length := by
    rw [List.length_range]
    exact clearance_lt pits inside
  unfold clearance at lt ⊢
  have found := of_decide_eq_true (List.findIdx_getElem (w := lt))
  rwa [List.getElem_range] at found

end Zone

theorem Wording.onVerdict_of_not_free {w : Wording} {z : Zone} {pits : Pits} {c : Cell}
    (taken : z.verdict pits c ≠ .free) :
    w.onVerdict (z.verdict pits c) = if c ∈ pits then w.pit else w.outside := by
  unfold Zone.verdict at *
  split
  · rfl
  · rename_i clear
    rw [if_neg clear] at taken
    split
    · rename_i inside
      exact absurd (if_pos inside) taken
    · rfl

namespace Settings

variable {s : Settings} {st : State} {p : Pose} {pits : Pits} {lines : List Text}

theorem executeAll_moves (bare : s.overrides = Table.empty) (all : s.TellsAll)
    (inside : s.zone.Contains p.cell) {f : Nat}
    (free : ∀ n < f, s.zone.verdict pits (p.cell.along (n + 1) p.heading) = .free)
    (stop : s.zone.verdict pits (p.cell.along (f + 1) p.heading) ≠ .free)
    (moves : ∀ line ∈ lines, s.vocabulary.read line = .ok .move) (stands : st.Stands p pits) :
    (s.executeAll st lines).2.2 =
        .ok (List.replicate (min lines.length f) none ++
          List.replicate (lines.length - min lines.length f)
            (s.wording.onVerdict (s.zone.verdict pits (p.cell.along (f + 1) p.heading)))) ∧
      (s.executeAll st lines).1.Stands
        ⟨p.cell.along (min lines.length f) p.heading, p.heading⟩ pits := by
  induction lines generalizing st p f with
  | nil =>
      simp only [List.length_nil, Nat.zero_min, Cell.along_zero]
      exact ⟨rfl, stands⟩
  | cons line rest ih =>
      have read := moves line List.mem_cons_self
      have moves := fun l member => moves l (List.mem_cons_of_mem line member)
      obtain ⟨result, after⟩ := execute_move bare read stands
      have here : s.zone.Contains (if s.zone.verdict pits (p.cell.ahead p.heading) = .free then
          Pace.move.taken p else p).cell := by
        split
        · rename_i clear
          exact (Zone.verdict_eq_free_iff.1 clear).2
        · exact inside
      obtain ⟨state, outputs⟩ := executeAll_cons rest (result (tells_of_stands all after here))
      rw [state, outputs]
      cases f with
      | zero =>
          -- The robot stays where it is, before the same obstacle.
          have blocked : s.zone.verdict pits (p.cell.ahead p.heading) ≠ .free := by
            rwa [← Cell.along_one]
          rw [if_neg blocked] at after
          obtain ⟨others, home⟩ := ih inside free stop moves after
          simp only [Nat.min_zero, Nat.zero_add] at others home ⊢
          rw [others, ← Cell.along_one]
          exact ⟨rfl, home⟩
      | succ f =>
          have clear : s.zone.verdict pits (p.cell.ahead p.heading) = .free := by
            rw [← Cell.along_one]
            exact free 0 (Nat.succ_pos f)
          rw [if_pos clear] at after here
          rw [clear]
          have free : ∀ n < f, s.zone.verdict pits
              ((p.cell.ahead p.heading).along (n + 1) p.heading) = .free := by
            intro n lt
            rw [← Cell.along_succ]
            exact free (n + 1) (by omega)
          rw [Cell.along_succ] at stop
          obtain ⟨others, home⟩ := ih (p := Pace.move.taken p) here free stop moves after
          simp only [Pace.taken, ← Cell.along_succ] at others home
          rw [others, List.length_cons, Nat.add_min_add_right, Nat.add_sub_add_right]
          exact ⟨rfl, home⟩

/-- However many moves are executed, the robot goes as far as the cells ahead of it are free, and
every move after that is answered alike: by what stands on the first cell that is not. -/
theorem executeAll_moves_ahead (bare : s.overrides = Table.empty) (all : s.TellsAll)
    (reached : s.Reaches st) (on : st.activated = true) :
    ∃ p, st.pose? = some p ∧
      let f := s.zone.clearance st.pits p
      let stop := p.cell.along (f + 1) p.heading
      (∀ n < f, s.zone.Contains (p.cell.along (n + 1) p.heading) ∧
        p.cell.along (n + 1) p.heading ∉ st.pits) ∧
      ¬ (s.zone.Contains stop ∧ stop ∉ st.pits) ∧
      ∀ lines : List Text, (∀ line ∈ lines, s.vocabulary.read line = .ok .move) →
        let k := lines.length
        let after := (s.executeAll st lines).1
        (s.executeAll st lines).2.2 =
            .ok (List.replicate (min k f) none ++
              List.replicate (k - min k f)
                (if stop ∈ st.pits then s.wording.pit else s.wording.outside)) ∧
          after.position = some (p.cell.along (min k f) p.heading) ∧
          after.heading = st.heading ∧ after.pits = st.pits ∧ after.activated = true := by
  obtain ⟨p, here, free⟩ := reached.sound.exists_free_pose on
  have inside := (Zone.verdict_eq_free_iff.1 free).2
  have stands := stands_of_pose? on here
  have stop := Zone.not_free_clearance st.pits inside
  refine ⟨p, here, fun n lt => ?_, ?_, fun lines moves => ?_⟩
  · exact (Zone.verdict_eq_free_iff.1 (Zone.free_of_lt_clearance lt)).symm
  · rintro ⟨contains, clear⟩
    exact stop (Zone.verdict_eq_free_iff.2 ⟨clear, contains⟩)
  · obtain ⟨outputs, home⟩ :=
      executeAll_moves bare all inside (fun n => Zone.free_of_lt_clearance) stop moves stands
    rw [Wording.onVerdict_of_not_free stop] at outputs
    have facing := home.heading.trans stands.heading.symm
    exact ⟨outputs, home.position, facing, home.pits, home.activated⟩

theorem executeAll_moves_ahead_beyond_wall :
    ∃ (st : State) (lines : List Text),
      st = standard.after State.initial ["DEPLOY 4,7,NORTH".toList, "PIT 4,10".toList] ∧
      lines = List.replicate 4 "MOVE".toList ∧ standard.TellsAll ∧ standard.Reaches st ∧
      st.activated = true ∧
      (∀ line ∈ lines, standard.vocabulary.read line = .ok .move) ∧
      (standard.executeAll st lines).2.2 =
        .ok [none, none, some "PIT Detected: Ignored".toList,
          some "PIT Detected: Ignored".toList] ∧
      (standard.executeAll st lines).1.position = some ⟨4, 9⟩ := by
  let st : State :=
    standard.after State.initial ["DEPLOY 4,7,NORTH".toList, "PIT 4,10".toList]
  have all : standard.TellsAll := fun traced => nomatch traced
  have reached : standard.Reaches st := Reaches.initial.replay _
  have on : st.activated = true := by decide +kernel
  have read : standard.vocabulary.read "MOVE".toList = .ok .move := by decide +kernel
  have moves : ∀ line ∈ List.replicate 4 "MOVE".toList,
      standard.vocabulary.read line = .ok .move := by
    intro line member
    rwa [List.eq_of_mem_replicate member]
  have here : st.pose? = some ⟨⟨4, 7⟩, .north⟩ := by decide +kernel
  obtain ⟨p, here', -, -, run⟩ := executeAll_moves_ahead rfl all reached on
  obtain rfl := Option.some.inj (here.symm.trans here')
  obtain ⟨outputs, position, -⟩ := run _ moves
  have clear : standard.zone.clearance st.pits ⟨⟨4, 7⟩, .north⟩ = 2 := by decide +kernel
  rw [clear] at outputs position
  refine ⟨st, _, rfl, rfl, all, reached, on, moves, outputs.trans ?_, position.trans ?_⟩
  · decide +kernel
  · decide +kernel

end Settings

end Rover
