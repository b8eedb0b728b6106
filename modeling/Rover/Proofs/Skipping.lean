import Rover.Proofs.Normalising
import Rover.Proofs.Portions
import Rover.Proofs.Turning
import Rover.Proofs.Walking

namespace Rover

namespace State

structure SameRobot (a b : State) : Prop where
  activated : a.activated = b.activated
  position : a.position = b.position
  heading : a.heading = b.heading
  pits : a.pits = b.pits

variable (st : State) (isOpen : Bool)

def rechain : State := { st with chain := isOpen }

@[simp] theorem rechain_heading : (st.rechain isOpen).heading = st.heading := rfl

@[simp] theorem rechain_pits : (st.rechain isOpen).pits = st.pits := rfl

@[simp] theorem rechain_pose? : (st.rechain isOpen).pose? = st.pose? := rfl

variable {st} {a b : State}

theorem Alike.sameRobot (alike : Alike a b) : SameRobot a b :=
  ⟨alike.activated, alike.position, alike.heading, alike.pits⟩

theorem SameRobot.trans {c : State} (h : SameRobot a b) (k : SameRobot b c) : SameRobot a c :=
  ⟨h.activated.trans k.activated, h.position.trans k.position, h.heading.trans k.heading,
    h.pits.trans k.pits⟩

theorem Alike.sameRobot_rechain (alike : Alike a b) (isOpen : Bool) :
    SameRobot a (b.rechain isOpen) :=
  ⟨alike.activated, alike.position, alike.heading, alike.pits⟩

theorem rechain_of_chain (told : st.chain = isOpen) : st.rechain isOpen = st := by
  subst told
  rfl

end State

def Deed.rechain (d : Deed) (isOpen : Bool) : Deed := ⟨d.state.rechain isOpen, d.result⟩

theorem Chain.after_congr {c : Command} (other : c.keyword ≠ Verb.keyword .pit)
    (isOpen isOpen' : Bool) : after isOpen (some c) = after isOpen' (some c) := by
  cases c with
  | pit cell => exact absurd rfl other
  | _ => rfl

namespace Settings

section

variable (s : Settings) (st : State) (isOpen : Bool)

theorem land_rechain (cell : Cell) (heading : Heading) :
    s.land (st.rechain isOpen) cell heading = (s.land st cell heading).rechain isOpen := by
  unfold land
  rw [State.rechain_pits]
  cases s.zone.verdict st.pits cell <;> rfl

theorem advance_rechain :
    s.advance (st.rechain isOpen) = (s.advance st).rechain isOpen := by
  unfold advance
  rw [State.rechain_pose?, State.rechain_pits]
  cases st.pose? with
  | none => rfl
  | some pose =>
      dsimp only
      cases s.zone.verdict st.pits (pose.cell.ahead pose.heading) <;> rfl

theorem face_rechain (turn : Heading → Heading) :
    face (st.rechain isOpen) turn = (face st turn).rechain isOpen := by
  unfold face
  rw [State.rechain_heading]
  cases st.heading <;> rfl

theorem obeyKeyword_rechain {keyword : Text} (other : keyword ≠ Verb.keyword .pit) :
    s.obeyKeyword (st.rechain isOpen) keyword = (s.obeyKeyword st keyword).rechain isOpen := by
  unfold obeyKeyword
  rw [advance_rechain, face_rechain, face_rechain, if_neg other, if_neg other]
  split_ifs <;> rfl

theorem respond_rechain {c : Command} (other : c.keyword ≠ Verb.keyword .pit) :
    s.respond (st.rechain isOpen) c = (s.respond st c).rechain isOpen := by
  have obeyed : s.obey (st.rechain isOpen) c = (s.obey st c).rechain isOpen := by
    cases c with
    | deploy cell heading => exact s.land_rechain st isOpen cell heading
    | pit cell => exact absurd rfl other
    | move => exact s.advance_rechain st isOpen
    | left => exact face_rechain st isOpen Heading.left
    | right => exact face_rechain st isOpen Heading.right
    | report => rfl
    | custom keyword arguments => exact s.obeyKeyword_rechain st isOpen other
  have heard : heeds (st.rechain isOpen) c = heeds st c := by
    cases c <;> rfl
  unfold respond
  rw [heard, obeyed]
  split
  · cases s.overrides.get? c.keyword <;> rfl
  · rfl

end

variable {s : Settings} {st : State} {line next : Text} {others lines outputs : List Text}

theorem keyword_ne_of_not_names {c : Command} {verb : Verb} (read : s.vocabulary.read line = .ok c)
    (other : ¬ s.vocabulary.names verb line = true) : c.keyword ≠ verb.keyword := by
  intro named
  simp [Vocabulary.names, read, named] at other

theorem execute_rechain (isOpen : Bool) (other : ¬ s.vocabulary.names .pit line = true)
    {output : Option Text} (ok : (s.execute (st.rechain isOpen) line).result = .ok output) :
    (s.execute st line).result = .ok output ∧
      (s.execute (st.rechain isOpen) line).state = (s.execute st line).state := by
  obtain ⟨result, state⟩ := s.execute_eq st line
  obtain ⟨result', state'⟩ := s.execute_eq (st.rechain isOpen) line
  have deed : s.deedOf (st.rechain isOpen) line = (s.deedOf st line).rechain isOpen := by
    unfold deedOf
    cases read : s.vocabulary.read line with
    | error refusal => cases refusal <;> rfl
    | ok c =>
        exact s.respond_rechain (numbered st) isOpen (keyword_ne_of_not_names read other)
  have told : Chain.after isOpen (Chain.command? s.vocabulary line) =
      Chain.after st.chain (Chain.command? s.vocabulary line) := by
    unfold Chain.command?
    cases read : s.vocabulary.read line with
    | error refusal => rfl
    | ok c => exact Chain.after_congr (keyword_ne_of_not_names read other) _ _
  -- neither the answer nor the trace of the state shows the chain
  have same : s.tell ((s.deedOf st line).rechain isOpen) (s.vocabulary.read line) =
      s.tell (s.deedOf st line) (s.vocabulary.read line) := rfl
  have answered : (s.execute st line).result = .ok output := by
    rw [← ok, result, result', deed, same]
  refine ⟨answered, ?_⟩
  rw [deed] at state'
  rw [state, state', Deed.rechain, deedOf_eq_ok answered]
  simp only [State.rechain, told]

theorem lineByLine_rechain (isOpen : Bool) (other : ¬ s.vocabulary.names .pit next = true)
    (ok : (s.lineByLine (st.rechain isOpen) (next :: others)).result = .ok outputs) :
    (s.lineByLine st (next :: others)).result = .ok outputs ∧
      (s.lineByLine (st.rechain isOpen) (next :: others)).state =
        (s.lineByLine st (next :: others)).state := by
  obtain ⟨output, later, answered, -, -⟩ := lineByLine_cons_ok ok
  obtain ⟨answered', same⟩ := execute_rechain isOpen other answered
  obtain ⟨state, result⟩ := lineByLine_cons answered others
  obtain ⟨state', result'⟩ := lineByLine_cons answered' others
  rw [same] at state result
  exact ⟨result'.trans (result.symm.trans ok), state.trans state'.symm⟩

theorem execute_malformed {f : Fault} (st : State)
    (malformed : s.vocabulary.read line = .error (.fault f)) :
    (s.execute st line).result = .ok none ∧
      (s.execute st line).state = (numbered st).rechain false := by
  obtain ⟨result, state⟩ := s.execute_eq st line
  simp only [deedOf, Chain.command?, malformed] at result state
  exact ⟨result, state⟩

theorem lineByLine_after_malformed {f : Fault}
    (malformed : s.vocabulary.read line = .error (.fault f))
    (blind : st.chain = false ∨ lines = [] ∨
      ∃ next others, lines = next :: others ∧ ¬ s.vocabulary.names .pit next = true)
    (ok : (s.lineByLine st (line :: lines)).result = .ok outputs) :
    (s.lineByLine st lines).result = .ok outputs ∧
      (s.lineByLine st lines).state.SameRobot (s.lineByLine st (line :: lines)).state ∧
      (lines ≠ [] →
        (s.lineByLine st lines).state.Alike (s.lineByLine st (line :: lines)).state) := by
  obtain ⟨silent, skipped⟩ := execute_malformed st malformed
  obtain ⟨state, -⟩ := lineByLine_cons silent lines
  obtain ⟨output, later, answered, rest, rfl⟩ := lineByLine_cons_ok ok
  obtain rfl := Except.ok.inj (silent.symm.trans answered)
  rw [skipped] at state rest
  rw [state]
  have counted : State.Alike st (numbered st) := ⟨rfl, rfl, rfl, rfl, rfl⟩
  have alike := lineByLine_alike (s := s) counted lines
  -- Either the chain was closed already, or the next line forgets that it was open.
  have same : lines = [] ∨ (s.lineByLine (numbered st) lines).result = .ok later ∧
      (s.lineByLine ((numbered st).rechain false) lines).state =
        (s.lineByLine (numbered st) lines).state := by
    rcases blind with closed | none_left | ⟨next, others, rfl, other⟩
    · have closed : (numbered st).rechain false = numbered st := State.rechain_of_chain false closed
      rw [closed] at rest ⊢
      exact .inr ⟨rest, rfl⟩
    · exact .inl none_left
    · exact .inr (lineByLine_rechain false other rest)
  rcases same with rfl | ⟨ok, same⟩
  · exact ⟨rest, counted.sameRobot_rechain false, fun some_left => absurd rfl some_left⟩
  · rw [same]
    exact ⟨alike.result.trans ok, alike.state.sameRobot, fun _ => alike.state⟩

theorem lineByLine_without_malformed {f : Fault} {st' : State} {earlier : List Text}
    (malformed : s.vocabulary.read line = .error (.fault f)) (alike : st'.Alike st)
    (blind : (s.after st earlier).chain = false ∨ lines = [] ∨
      ∃ next others, lines = next :: others ∧ ¬ s.vocabulary.names .pit next = true)
    (ok : (s.lineByLine st (earlier ++ line :: lines)).result = .ok outputs) :
    let run := s.lineByLine st (earlier ++ line :: lines)
    let run' := s.lineByLine st' (earlier ++ lines)
    run'.result = .ok outputs ∧ run'.state.SameRobot run.state ∧
      (lines ≠ [] → run'.state.Alike run.state) := by
  intro run run'
  have whole : run = _ := s.lineByLine_append st earlier (line :: lines)
  have same := lineByLine_alike (s := s) alike (earlier ++ lines)
  rw [lineByLine_append s st] at ok same
  obtain ⟨before, after, first, rest, rfl⟩ := Upshot.andThen_result_eq_ok_iff.1 ok
  rw [lineByLine_state first] at rest
  rw [Upshot.andThen_ok first, lineByLine_state first] at whole same
  obtain ⟨rest', robot, chain⟩ := lineByLine_after_malformed malformed blind rest
  rw [rest'] at same
  rw [whole]
  exact ⟨same.result, same.state.sameRobot.trans robot, fun left => same.state.trans (chain left)⟩

theorem dig_of_closed (s : Settings) (closed : st.chain = false) (cell? : Option Cell) :
    s.dig st cell? = ⟨st, .ok none⟩ := by
  unfold dig
  rw [if_neg (by simp [closed])]

theorem respond_pit_of_closed (bare : s.overrides = Table.empty) (closed : st.chain = false)
    {c : Command} (named : c.keyword = Verb.keyword .pit) :
    s.respond st c = ⟨st, .ok none⟩ ∧ Chain.after st.chain (some c) = st.chain := by
  have obeyed : s.obey st c = ⟨st, .ok none⟩ ∧ Chain.after st.chain (some c) = st.chain := by
    cases c with
    | deploy cell heading => exact absurd named (show "DEPLOY".toList ≠ "PIT".toList by decide)
    | pit cell => exact ⟨s.dig_of_closed closed (some cell), rfl⟩
    | custom keyword arguments =>
        obtain rfl : keyword = Verb.keyword .pit := named
        exact ⟨s.dig_of_closed closed none, closed.symm⟩
    | _ => exact absurd named (by decide)
  refine ⟨?_, obeyed.2⟩
  by_cases heeded : heeds st c = true
  · rw [s.respond_of_heeds st bare heeded, obeyed.1]
  · rw [s.respond_of_deaf st heeded]

theorem executeAll_pits_of_closed (bare : s.overrides = Table.empty) (closed : st.chain = false)
    (named : ∀ line ∈ lines, s.vocabulary.names .pit line = true)
    (ok : (s.lineByLine st lines).result = .ok outputs) :
    (s.executeAll st lines).2.2 = .ok (lines.map fun _ => none) ∧
      (s.executeAll st lines).1 = { st with lineNumber := st.lineNumber + lines.length } := by
  induction lines generalizing st outputs with
  | nil => exact ⟨rfl, rfl⟩
  | cons line rest ih =>
      obtain ⟨first, later⟩ := List.forall_mem_cons.1 named
      obtain ⟨c, read, named⟩ : ∃ c, s.vocabulary.read line = .ok c ∧
          c.keyword = Verb.keyword .pit := by
        unfold Vocabulary.names at first
        split at first
        · exact ⟨_, ‹_›, of_decide_eq_true first⟩
        · cases first
      have closed : (numbered st).chain = false := closed
      obtain ⟨silent, kept⟩ := respond_pit_of_closed bare closed named
      obtain ⟨output, others, answered, ok, -⟩ := lineByLine_cons_ok ok
      have deed : s.deedOf st line = ⟨numbered st, .ok none⟩ := by
        rw [deedOf, read]
        exact silent
      obtain rfl : output = none := by
        have same := deedOf_eq_ok answered
        rw [deed] at same
        exact (Except.ok.inj same).symm
      obtain ⟨-, state⟩ := s.execute_of_read st read
      rw [silent] at state
      have counted : (s.execute st line).state = numbered st := (state rfl).trans
        (congrArg (numbered st).rechain kept)
      obtain ⟨after, outputs⟩ := executeAll_cons rest answered
      rw [counted] at after outputs ok
      obtain ⟨answers, same⟩ := ih closed later ok
      refine ⟨by rw [outputs, answers]; rfl, ?_⟩
      rw [after, same, List.length_cons, Nat.add_comm rest.length 1, ← Nat.add_assoc]
      rfl

variable (s) in
/-- A malformed line may be left out, unless pits come next and the chain was open: then none of
them is dug. -/
theorem process_without_malformed (coloured : Bool) (st : State) {stream stream' : Stream}
    {source source' : Option Text} {earlier later : List Text} {f : Fault}
    (held : stream.Holds s source (earlier ++ line :: later))
    (held' : stream'.Holds s source' (earlier ++ later))
    (malformed : s.vocabulary.read line = .error (.fault f))
    (finished : (s.process coloured st stream).ending = .finished) :
    let run := s.process coloured st stream
    let run' := s.process coloured st stream'
    let here := s.after (s.opening st source) earlier
    (here.chain = false ∨ later = [] ∨
        (∃ next others, later = next :: others ∧ ¬ s.vocabulary.names .pit next = true) →
      run'.ending = .finished ∧ run'.outputs = run.outputs ∧ run'.state.SameRobot run.state ∧
        (later ≠ [] → run'.state.chain = run.state.chain)) ∧
    (s.overrides = Table.empty → ∀ pits others, later = pits ++ others →
      (∀ pit ∈ pits, s.vocabulary.names .pit pit = true) →
        (s.executeAll (s.execute here line).state pits).2.2 = .ok (pits.map fun _ => none) ∧
        (s.executeAll (s.execute here line).state pits).1 =
          { here with chain := false, lineNumber := here.lineNumber + 1 + pits.length }) := by
  intro run run' here
  have ok := (lineByLine_eq_ok_iff coloured st held).2 ⟨finished, rfl⟩
  refine ⟨fun blind => ?_, fun bare pits others split named => ?_⟩
  · have opened := (alike_opening (s := s) (.refl st) source' source).1
    obtain ⟨ok', robot, chain⟩ := lineByLine_without_malformed malformed opened blind ok
    rw [← process_state_of_holds coloured st held, ← process_state_of_holds coloured st held']
      at robot chain
    obtain ⟨ending, outputs⟩ := (lineByLine_eq_ok_iff coloured st held').1 ok'
    exact ⟨ending, outputs, robot, fun left => (chain left).chain⟩
  · obtain ⟨-, skipped⟩ := execute_malformed here malformed
    rw [lineByLine_append] at ok
    obtain ⟨before, after, first, rest, -⟩ := Upshot.andThen_result_eq_ok_iff.1 ok
    rw [lineByLine_state first] at rest
    obtain ⟨output, left, -, through, -⟩ := lineByLine_cons_ok rest
    rw [split, lineByLine_append] at through
    obtain ⟨answers, remaining, dug, -, -⟩ := Upshot.andThen_result_eq_ok_iff.1 through
    rw [skipped] at dug ⊢
    exact executeAll_pits_of_closed bare rfl named dug

theorem process_without_malformed_before_pits :
    ∃ (run run' : Stretch) (here : State) (pits : List Text),
      run = standard.process false State.initial
        (.given (.text "DEPLOY 0,0,NORTH\nMOVE 1\nMOVE\nPIT 1,1\nREPORT".toList) none) ∧
      run' = standard.process false State.initial
        (.given (.text "DEPLOY 0,0,NORTH\nMOVE\nPIT 1,1\nREPORT".toList) none) ∧
      here = standard.after (standard.opening State.initial none) ["DEPLOY 0,0,NORTH".toList] ∧
      here.chain = true ∧ run'.outputs = run.outputs ∧ run.outputs = ["0,1,NORTH".toList] ∧
      run'.state.SameRobot run.state ∧ run'.state.chain = run.state.chain ∧
      pits = ["PIT 1,1".toList, "PIT 2,2".toList] ∧
      (∀ pit ∈ pits, standard.vocabulary.names .pit pit = true) ∧
      (standard.executeAll here pits).1.pits.cells = [⟨1, 1⟩, ⟨2, 2⟩] ∧
      (standard.executeAll (standard.execute here "MOVE 1".toList).state pits).1 =
        { here with chain := false, lineNumber := 4 } := by
  let earlier := ["DEPLOY 0,0,NORTH".toList]
  let pits := ["PIT 1,1".toList, "PIT 2,2".toList]
  let stream : Stream :=
    .given (.text "DEPLOY 0,0,NORTH\nMOVE 1\nMOVE\nPIT 1,1\nREPORT".toList) none
  let stream' : Stream := .given (.text "DEPLOY 0,0,NORTH\nMOVE\nPIT 1,1\nREPORT".toList) none
  have held : stream.Holds standard none
      (earlier ++ "MOVE 1".toList :: ["MOVE".toList, "PIT 1,1".toList, "REPORT".toList]) :=
    ⟨rfl, by decide +kernel⟩
  have held' : stream'.Holds standard none
      (earlier ++ ["MOVE".toList, "PIT 1,1".toList, "REPORT".toList]) :=
    ⟨rfl, by decide +kernel⟩
  have malformed : standard.vocabulary.read "MOVE 1".toList = .error (.fault (.arity .move 1)) := by
    decide +kernel
  have finished : (standard.process false State.initial stream).ending = .finished := by
    decide +kernel
  obtain ⟨skipped, -⟩ :=
    process_without_malformed standard false State.initial held held' malformed finished
  obtain ⟨-, outputs, robot, chain⟩ :=
    skipped (.inr (.inr ⟨_, _, rfl, by decide +kernel⟩))
  have dug : (Stream.given (.items ((earlier ++ "MOVE 1".toList :: pits).map .text)) none).Holds
      standard none (earlier ++ "MOVE 1".toList :: pits) := Stream.holds_items _ _ _
  have dug' : (Stream.given (.items ((earlier ++ pits).map .text)) none).Holds
      standard none (earlier ++ pits) := Stream.holds_items _ _ _
  obtain ⟨-, refused⟩ := process_without_malformed standard false State.initial dug dug' malformed
    (by decide +kernel)
  have named : ∀ pit ∈ pits, standard.vocabulary.names .pit pit = true := by decide +kernel
  have left := (refused rfl pits [] (List.append_nil pits).symm named).2
  exact ⟨_, _, _, pits, rfl, rfl, rfl, by decide +kernel, outputs, by decide +kernel, robot,
    chain (List.cons_ne_nil _ _), rfl, named, by decide +kernel, left⟩

end Settings

end Rover
