import Rover.Proofs.Normalising
import Rover.Proofs.PitBlocks
import Rover.Proofs.Turning

namespace Rover

namespace Settings

variable {s : Settings} {st st' : State} {line first : Text} {lines rest outputs : List Text}
  {heading : Heading}

theorem landing?_of_pits (same : st.pits = st'.pits) (line : Text) :
    s.landing? st line = s.landing? st' line := by
  unfold landing?
  rw [same]

theorem execute_landing_alike (bare : s.overrides = Table.empty) (same : st.pits = st'.pits)
    (lands : s.landing? st line = some heading) :
    (s.execute st line).upshot.Alike (s.execute st' line).upshot := by
  obtain ⟨result, cell, read, state⟩ := execute_landing bare lands
  obtain ⟨result', cell', read', state'⟩ :=
    execute_landing bare ((landing?_of_pits same line).symm.trans lands)
  obtain ⟨rfl, -⟩ := Command.deploy.inj (Except.ok.inj (read.symm.trans read'))
  refine ⟨?_, s.execute_unnumbered st st' line, ?_⟩
  · change State.Alike (s.execute st line).state (s.execute st' line).state
    rw [state, state']
    exact ⟨rfl, rfl, rfl, same, rfl⟩
  · rw [Turn.upshot_of_ok result, Turn.upshot_of_ok result']

theorem hand_of_alike (coloured : Bool) (alike : State.Alike st st') (portion : Portion) :
    (s.hand coloured st portion).Alike (s.hand coloured st' portion) := by
  cases portion with
  | together lines source =>
      rw [hand, hand, s.process_upshot coloured st rfl rfl, s.process_upshot coloured st' rfl rfl]
      exact lineByLine_alike (alike_opening alike source source).1 lines
  | alone line => exact execute_upshot_alike alike line

theorem handAll_of_alike (coloured : Bool) (alike : State.Alike st st')
    (portions : List Portion) :
    (s.handAll coloured st portions).Alike (s.handAll coloured st' portions) := by
  induction portions generalizing st st' with
  | nil => exact ⟨alike, rfl, rfl⟩
  | cons portion rest ih => exact (hand_of_alike coloured alike portion).andThen fun _ _ => ih

theorem after_pits (bare : s.overrides = Table.empty) (st : State)
    (free : ∀ line ∈ lines, ¬ s.TellsPit line) : (s.after st lines).pits = st.pits := by
  induction lines generalizing st with
  | nil => rfl
  | cons line rest ih =>
      obtain ⟨first, others⟩ := List.forall_mem_cons.1 free
      rw [after_cons, ih _ others]
      apply Pits.eq_of_mem_iff
      intro p
      rw [mem_pits_execute bare, or_iff_left]
      exact fun dug => first ⟨p, dug.1⟩

theorem lineByLine_landing (bare : s.overrides = Table.empty) (same : st.pits = st'.pits)
    (lands : s.landing? st first = some heading) (rest : List Text) :
    (s.lineByLine st (first :: rest)).Alike (s.lineByLine st' (first :: rest)) :=
  (execute_landing_alike bare same lands).andThen fun _ _ alike => lineByLine_alike alike rest

theorem lineByLine_replicate (bare : s.overrides = Table.empty)
    (lands : s.landing? st first = some heading)
    (free : ∀ line ∈ first :: rest, ¬ s.TellsPit line)
    (ok : (s.lineByLine st (first :: rest)).result = .ok outputs) (k : Nat)
    (same : st.pits = st'.pits) :
    (s.lineByLine st' (List.replicate (k + 1) (first :: rest)).flatten).result =
        .ok (List.replicate (k + 1) outputs).flatten ∧
      State.Alike (s.lineByLine st' (List.replicate (k + 1) (first :: rest)).flatten).state
        (s.lineByLine st (first :: rest)).state := by
  have pass (st' : State) (same : st.pits = st'.pits) := lineByLine_landing bare same lands rest
  induction k generalizing st' with
  | zero =>
      have once := (pass st' same).symm
      simp only [Nat.zero_add, List.replicate_one, List.flatten_singleton]
      exact ⟨once.result.trans ok, once.state⟩
  | succ k ih =>
      have once := (pass st' same).symm.result.trans ok
      -- the pits are all that a pass gets from the one before, and no line of it tells any
      have kept : st.pits = (s.lineByLine st' (first :: rest)).state.pits := by
        rw [lineByLine_state once, after_pits bare st' free, same]
      obtain ⟨result, state⟩ := ih kept
      rw [List.replicate_succ, List.replicate_succ, List.flatten_cons, List.flatten_cons,
        lineByLine_append, Upshot.andThen_ok once]
      exact ⟨congrArg (Except.map (outputs ++ ·)) result, state⟩

variable (s) in
/-- A deployment that succeeds forgets all but the pits; so lines that begin with one and tell no
pit do the same however often they are repeated. -/
theorem landing_forgets (bare : s.overrides = Table.empty) :
    (∀ st st' line heading, st.pits = st'.pits → s.landing? st line = some heading →
      s.landing? st' line = some heading ∧ (s.execute st line).result = .ok none ∧
        (s.execute st' line).result = .ok none ∧ (s.execute st line).state.activated = true ∧
        State.Alike (s.execute st line).state (s.execute st' line).state ∧
        ∀ coloured portions, (s.handAll coloured (s.execute st line).state portions).Alike
          (s.handAll coloured (s.execute st' line).state portions)) ∧
    (s.keepsState = false → ∀ coloured st first rest cell heading source (stream : Stream),
      s.vocabulary.read first = .ok (.deploy cell heading) → s.zone.Contains cell →
      (∀ line ∈ first :: rest, ¬ s.TellsPit line) → stream.Holds s source (first :: rest) →
      let once := s.process coloured st stream
      once.ending = .finished →
        ∀ k ≥ 1, ∀ source' (stream' : Stream),
          stream'.Holds s source' (List.replicate k (first :: rest)).flatten →
          let often := s.process coloured st stream'
          often.ending = .finished ∧ often.outputs = (List.replicate k once.outputs).flatten ∧
            State.Alike often.state once.state) := by
  constructor
  · intro st st' line heading same lands
    have lands' := (landing?_of_pits same line).symm.trans lands
    have alike := (execute_landing_alike bare same lands).state
    exact ⟨lands', (execute_landing bare lands).1, (execute_landing bare lands').1,
      (execute_of_landing? bare lands).1, alike, fun coloured => handAll_of_alike coloured alike⟩
  · intro fresh coloured st first rest cell heading source stream read inside free held once
      finished k positive source' stream' held' often
    obtain ⟨-, -, empty⟩ := s.opening_fresh st fresh source
    obtain ⟨-, -, empty'⟩ := s.opening_fresh st fresh source'
    have clear : s.zone.verdict (s.opening st source).pits cell = .free := by
      rw [empty]
      exact Zone.verdict_eq_free_iff.2 ⟨Pits.not_mem_empty cell, inside⟩
    have lands := landing?_eq_some_iff.2 ⟨cell, read, clear⟩
    have ok := (lineByLine_eq_ok_iff coloured st held).2 ⟨finished, rfl⟩
    obtain ⟨k, rfl⟩ := Nat.exists_eq_add_one_of_ne_zero (Nat.ne_of_gt positive)
    obtain ⟨result, state⟩ := lineByLine_replicate bare lands free ok k (empty.trans empty'.symm)
    rw [← process_state_of_holds coloured st held, ← process_state_of_holds coloured st held']
      at state
    obtain ⟨ending, outputs⟩ := (lineByLine_eq_ok_iff coloured st held').1 result
    exact ⟨ending, outputs, state⟩

theorem landing_forgets_thrice :
    ∃ (st st' : State) (once often : Stretch),
      standard.overrides = Table.empty ∧ standard.keepsState = false ∧
      st = standard.after State.initial
        ["DEPLOY 0,0,NORTH".toList, "PIT 1,1".toList, "MOVE".toList] ∧
      st' = standard.after State.initial
        ["DEPLOY 5,5,WEST".toList, "PIT 1,1".toList, "DEPLOY 9,0,SOUTH".toList] ∧
      st.pits = st'.pits ∧ st.position ≠ st'.position ∧ st.chain ≠ st'.chain ∧
      State.Alike (standard.execute st "DEPLOY 2,2,EAST".toList).state
        (standard.execute st' "DEPLOY 2,2,EAST".toList).state ∧
      once = standard.process true st
        (.given (.text "DEPLOY 0,0,EAST\nLEFT\nMOVE\nREPORT\nPIT\n".toList) none) ∧
      once.outputs = ["0,1,NORTH".toList] ∧
      often = standard.process true st
        (.given (.items ((List.replicate 3 ["DEPLOY 0,0,EAST".toList, "LEFT".toList, "MOVE".toList,
          "REPORT".toList, "PIT".toList]).flatten.map .text)) none) ∧
      often.outputs = ["0,1,NORTH".toList, "0,1,NORTH".toList, "0,1,NORTH".toList] ∧
      State.Alike often.state once.state := by
  let st : State := standard.after State.initial
    ["DEPLOY 0,0,NORTH".toList, "PIT 1,1".toList, "MOVE".toList]
  let st' : State := standard.after State.initial
    ["DEPLOY 5,5,WEST".toList, "PIT 1,1".toList, "DEPLOY 9,0,SOUTH".toList]
  let rest : List Text := ["LEFT".toList, "MOVE".toList, "REPORT".toList, "PIT".toList]
  let stream : Stream :=
    .given (.text "DEPLOY 0,0,EAST\nLEFT\nMOVE\nREPORT\nPIT\n".toList) none
  obtain ⟨forgets, repeats⟩ := landing_forgets standard rfl
  have same : st.pits = st'.pits := by decide +kernel
  have lands : standard.landing? st "DEPLOY 2,2,EAST".toList = some .east := by decide +kernel
  have alike := (forgets st st' _ _ same lands).2.2.2.2.1
  have read : standard.vocabulary.read "DEPLOY 0,0,EAST".toList = .ok (.deploy ⟨0, 0⟩ .east) := by
    decide +kernel
  have held : stream.Holds standard none ("DEPLOY 0,0,EAST".toList :: rest) :=
    ⟨rfl, by decide +kernel⟩
  have free : ∀ line ∈ "DEPLOY 0,0,EAST".toList :: rest, ¬ standard.TellsPit line := by
    have read : ("DEPLOY 0,0,EAST".toList :: rest).map standard.vocabulary.read =
        [.ok (.deploy ⟨0, 0⟩ .east), .ok .left, .ok .move, .ok .report,
          .error (.fault (.arity .pit 0))] := by
      decide +kernel
    rintro line inside ⟨p, told⟩
    have member := List.mem_map_of_mem (f := standard.vocabulary.read) inside
    rw [read, told] at member
    simp at member
  have finished : (standard.process true st stream).ending = .finished := by decide +kernel
  obtain ⟨-, outputs, state⟩ :=
    repeats rfl true st _ rest _ _ none stream read (by decide) free held
    finished 3 (by decide) none _ (Stream.holds_items standard none _)
  have said : (standard.process true st stream).outputs = ["0,1,NORTH".toList] := by decide +kernel
  exact ⟨st, st', _, _, rfl, rfl, rfl, rfl, same, by decide +kernel, by decide +kernel, alike, rfl,
    said, rfl, by rw [outputs, said]; rfl, state⟩

end Settings

end Rover
