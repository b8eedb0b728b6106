import Rover.Proofs.PitHistory
import Rover.Proofs.Robustness
import Rover.Proofs.Writing

namespace Rover

open State

/-- A quarter turn of the zone, clockwise, and its reflection that swaps east and west. -/
inductive Symmetry where
  | turn
  | mirror
  deriving DecidableEq, Repr

namespace Symmetry

def cell (z : Zone) : Symmetry → Cell → Cell
  | .turn, c => ⟨c.y, z.size - 1 - c.x⟩
  | .mirror, c => ⟨z.size - 1 - c.x, c.y⟩

def heading : Symmetry → Heading → Heading
  | .turn, h => h.right
  | .mirror, .east => .west
  | .mirror, .west => .east
  | .mirror, h => h

def pose (z : Zone) (σ : Symmetry) (p : Pose) : Pose := ⟨σ.cell z p.cell, σ.heading p.heading⟩

def command (z : Zone) : Symmetry → Command → Command
  | σ, .deploy c h => .deploy (σ.cell z c) (σ.heading h)
  | σ, .pit c => .pit (σ.cell z c)
  | .mirror, .left => .right
  | .mirror, .right => .left
  | _, c => c

structure Image (σ : Symmetry) (z : Zone) (st st' : State) : Prop where
  activated : st'.activated = st.activated
  position : st'.position = st.position.map (σ.cell z)
  heading : st'.heading = st.heading.map σ.heading
  pits : ∀ c, c ∈ st'.pits ↔ ∃ pit ∈ st.pits, σ.cell z pit = c
  chain : st'.chain = st.chain

/-- What the same line and its image give: nothing both, the same refusal, or reports of a pose and
its image. -/
inductive SameKind (σ : Symmetry) (s : Settings) (here : Option Pose) :
    Except Crash (Option Text) → Except Crash (Option Text) → Prop
  | silent : SameKind σ s here (.ok none) (.ok none)
  | blocked {message : Option Text}
      (told : message ∈ [s.wording.outside, s.wording.pit, s.wording.robot]) :
      SameKind σ s here (.ok message) (.ok message)
  | reported {pose : Pose} {text text' : Text} (stands : here = some pose)
      (told : s.wording.reportOf pose = .ok text)
      (told' : s.wording.reportOf (σ.pose s.zone pose) = .ok text') :
      SameKind σ s here (.ok (some text)) (.ok (some text'))

variable {σ : Symmetry} {z : Zone} {st st' : State}

theorem cell_injective {a b : Cell} (same : σ.cell z a = σ.cell z b) : a = b := by
  obtain ⟨ax, ay⟩ := a
  obtain ⟨bx, bz⟩ := b
  cases σ with
  | turn =>
      simp only [cell, Cell.mk.injEq] at same ⊢
      omega
  | mirror =>
      simp only [cell, Cell.mk.injEq] at same ⊢
      omega

theorem contains_cell (c : Cell) : z.Contains (σ.cell z c) ↔ z.Contains c := by
  cases σ with
  | turn =>
      simp only [cell, Zone.Contains]
      omega
  | mirror =>
      simp only [cell, Zone.Contains]
      omega

theorem ahead_cell (c : Cell) (h : Heading) :
    (σ.cell z c).ahead (σ.heading h) = σ.cell z (c.ahead h) := by
  cases σ <;> cases h <;>
    simp only [cell, heading, Heading.right, Cell.ahead, Cell.mk.injEq, true_and, and_true] <;>
    omega

theorem Image.initial (σ : Symmetry) (z : Zone) : σ.Image z State.initial State.initial where
  activated := rfl
  position := rfl
  heading := rfl
  pits := by simp [State.initial]
  chain := rfl

theorem Image.mem_pits (image : σ.Image z st st') (c : Cell) :
    σ.cell z c ∈ st'.pits ↔ c ∈ st.pits := by
  rw [image.pits]
  constructor
  · rintro ⟨pit, member, same⟩
    rwa [← cell_injective same]
  · intro member
    exact ⟨c, member, rfl⟩

theorem Image.verdict (image : σ.Image z st st') (c : Cell) :
    z.verdict st'.pits (σ.cell z c) = z.verdict st.pits c := by
  simp only [Zone.verdict, image.mem_pits, contains_cell]

theorem Image.pose? (image : σ.Image z st st') : st'.pose? = st.pose?.map (σ.pose z) := by
  simp only [State.pose?, image.position, image.heading]
  cases st.position with
  | none => rfl
  | some c => cases st.heading <;> rfl

theorem Image.stands (image : σ.Image z st st') (c : Cell) :
    st'.position = some (σ.cell z c) ↔ st.position = some c := by
  rw [image.position]
  cases st.position with
  | none => simp
  | some d =>
      simp only [Option.map_some, Option.some.injEq]
      exact ⟨cell_injective, congrArg _⟩

structure Matches (σ : Symmetry) (s : Settings) (here : Option Pose) (deed deed' : Deed) :
    Prop where
  state : σ.Image s.zone deed.state deed'.state
  result : σ.SameKind s here deed.result deed'.result

variable {s : Settings} {here : Option Pose}

theorem SameKind.onVerdict (v : Verdict) :
    σ.SameKind s here (.ok (s.wording.onVerdict v)) (.ok (s.wording.onVerdict v)) := by
  cases v with
  | free => exact .silent
  | pit => exact .blocked (by simp [Wording.onVerdict])
  | outside => exact .blocked (by simp [Wording.onVerdict])

theorem land_matches (image : σ.Image s.zone st st') (c : Cell) (h : Heading) :
    σ.Matches s here (s.land st c h) (s.land st' (σ.cell s.zone c) (σ.heading h)) := by
  simp only [Settings.land, image.verdict]
  cases s.zone.verdict st.pits c with
  | free => exact ⟨⟨rfl, rfl, rfl, image.pits, image.chain⟩, .silent⟩
  | pit => exact ⟨image, .onVerdict .pit⟩
  | outside => exact ⟨image, .onVerdict .outside⟩

theorem dig_matches (image : σ.Image s.zone st st') (c : Cell) :
    σ.Matches s here (s.dig st (some c)) (s.dig st' (some (σ.cell s.zone c))) := by
  simp only [Settings.dig, image.chain, image.stands]
  split
  · split
    · exact ⟨image, .blocked (by simp)⟩
    · refine ⟨⟨image.activated, image.position, image.heading, fun d => ?_, rfl⟩, .silent⟩
      simp only [Pits.mem_insert, image.pits]
      constructor
      · rintro (rfl | ⟨pit, member, rfl⟩)
        · exact ⟨c, .inl rfl, rfl⟩
        · exact ⟨pit, .inr member, rfl⟩
      · rintro ⟨pit, rfl | member, rfl⟩
        · exact .inl rfl
        · exact .inr ⟨pit, member, rfl⟩
  · exact ⟨image, .silent⟩

theorem advance_matches (image : σ.Image s.zone st st') {pose : Pose}
    (stands : st.pose? = some pose) : σ.Matches s here (s.advance st) (s.advance st') := by
  simp only [Settings.advance, image.pose?, stands, Option.map_some, Symmetry.pose, ahead_cell,
    image.verdict]
  cases s.zone.verdict st.pits (pose.cell.ahead pose.heading) with
  | free => exact ⟨⟨image.activated, rfl, image.heading, image.pits, image.chain⟩, .silent⟩
  | pit => exact ⟨image, .onVerdict .pit⟩
  | outside => exact ⟨image, .onVerdict .outside⟩

theorem face_matches (image : σ.Image s.zone st st') {h : Heading} (looks : st.heading = some h)
    {turn turn' : Heading → Heading} (same : turn' (σ.heading h) = σ.heading (turn h)) :
    σ.Matches s here (Settings.face st turn) (Settings.face st' turn') := by
  simp only [Settings.face, image.heading, looks, Option.map_some, same]
  exact ⟨⟨image.activated, image.position, rfl, image.pits, image.chain⟩, .silent⟩

theorem report_matches (image : σ.Image s.zone st st') (on : st.activated = true) {pose : Pose}
    (stands : st.pose? = some pose) {text text' : Text}
    (told : s.wording.reportOf pose = .ok text)
    (told' : s.wording.reportOf (σ.pose s.zone pose) = .ok text') :
    σ.SameKind s st.pose? (s.report st) (s.report st') := by
  simp only [Settings.report, image.activated, image.pose?, stands, on, if_true, Option.map_some,
    told, told']
  exact .reported rfl told told'

theorem heeds_command (image : σ.Image s.zone st st') (c : Command) :
    Settings.heeds st' (σ.command z c) = Settings.heeds st c := by
  cases c <;> cases σ <;> simp [Settings.heeds, command, image.activated]

theorem after_command (isOpen : Bool) (c : Command) :
    Chain.after isOpen (some (σ.command z c)) = Chain.after isOpen (some c) := by
  cases c <;> cases σ <;> rfl

theorem obey_matches (standard : s.IsStandard) (sound : Sound s.zone st)
    (image : σ.Image s.zone st st') {c : Command} (writable : c.IsWritable)
    (shown : c = .report → ∀ cell, st.position = some cell →
      cell.IsWritable ∧ (σ.cell s.zone cell).IsWritable)
    (heeded : Settings.heeds st c = true) :
    σ.Matches s st.pose? (s.obey st c) (s.obey st' (σ.command s.zone c)) := by
  cases c with
  | deploy cell heading => exact land_matches image cell heading
  | pit cell => exact dig_matches image cell
  | custom keyword arguments => exact writable.elim
  | move =>
      obtain ⟨pose, stands⟩ := sound.exists_pose heeded
      cases σ <;> exact advance_matches image stands
  | left =>
      obtain ⟨pose, stands⟩ := sound.exists_pose heeded
      have looks := (pose?_eq_some.1 stands).2
      cases σ <;> exact face_matches image looks (by cases pose.heading <;> rfl)
  | right =>
      obtain ⟨pose, stands⟩ := sound.exists_pose heeded
      have looks := (pose?_eq_some.1 stands).2
      cases σ <;> exact face_matches image looks (by cases pose.heading <;> rfl)
  | report =>
      obtain ⟨pose, stands⟩ := sound.exists_pose heeded
      obtain ⟨fits, fits'⟩ := shown rfl pose.cell (pose?_eq_some.1 stands).1
      have usual : s.wording.report = Wording.standard.report :=
        by rw [standard.wording]
      have told := (Wording.reportOf_standard usual pose).trans (if_pos fits)
      have told' := (Wording.reportOf_standard usual (σ.pose s.zone pose)).trans (if_pos fits')
      cases σ <;> exact ⟨image, report_matches image heeded stands told told'⟩

theorem respond_matches (standard : s.IsStandard) (sound : Sound s.zone st)
    (image : σ.Image s.zone st st') {c : Command} (writable : c.IsWritable)
    (shown : c = .report → ∀ cell, st.position = some cell →
      cell.IsWritable ∧ (σ.cell s.zone cell).IsWritable) :
    σ.Matches s st.pose? (s.respond st c) (s.respond st' (σ.command s.zone c)) := by
  by_cases heeded : Settings.heeds st c = true
  · have heeded' : Settings.heeds st' (σ.command s.zone c) = true :=
      (heeds_command image c).trans heeded
    rw [s.respond_of_heeds st standard.overrides heeded,
      s.respond_of_heeds st' standard.overrides heeded']
    exact obey_matches standard sound image writable shown heeded
  · have unheeded : ¬ Settings.heeds st' (σ.command s.zone c) = true := by
      rwa [heeds_command image c]
    rw [Settings.respond, if_neg heeded, Settings.respond, if_neg unheeded]
    exact ⟨image, .silent⟩

theorem SameKind.exists_ok {result result' : Except Crash (Option Text)}
    (same : σ.SameKind s here result result') :
    ∃ output, result = .ok output ∧ ∃ output', result' = .ok output' := by
  cases same with
  | silent => exact ⟨_, rfl, _, rfl⟩
  | blocked told => exact ⟨_, rfl, _, rfl⟩
  | reported stands told told' => exact ⟨_, rfl, _, rfl⟩

theorem Image.tells (image : σ.Image s.zone st st') (sound : Sound s.zone st)
    (short : s.traced = true → ∀ cell, st.position = some cell →
      cell.IsWritable ∧ (σ.cell s.zone cell).IsWritable) : s.Tells st ∧ s.Tells st' := by
  have looks (on : st.activated = true) : st.heading ≠ none := sound.heading.1 on
  refine ⟨fun traced => isTold_iff.2 fun on => ⟨looks on, fun cell here =>
    (short traced cell here).1⟩, fun traced => isTold_iff.2 fun on => ⟨?_, fun cell there => ?_⟩⟩
  · rw [image.heading, Ne, Option.map_eq_none_iff]
    exact looks (image.activated ▸ on)
  · rw [image.position] at there
    obtain ⟨c, here, rfl⟩ := Option.map_eq_some_iff.1 there
    exact (short traced c here).2

theorem execute_matches (standard : s.IsStandard) (sound : Sound s.zone st)
    (image : σ.Image s.zone st st') {c : Command} (writable : c.IsWritable)
    (writable' : (σ.command s.zone c).IsWritable)
    (shown : c = .report → ∀ cell, st.position = some cell →
      cell.IsWritable ∧ (σ.cell s.zone cell).IsWritable)
    (traced : s.traced = true → ∀ cell, (s.execute st c.text).state.position = some cell →
      cell.IsWritable ∧ (σ.cell s.zone cell).IsWritable) :
    σ.Image s.zone (s.execute st c.text).state
        (s.execute st' (σ.command s.zone c).text).state ∧
      σ.SameKind s st.pose? (s.execute st c.text).result
        (s.execute st' (σ.command s.zone c).text).result := by
  have read : s.vocabulary.read c.text = .ok c := by
    rw [standard.vocabulary]
    exact Vocabulary.read_text writable
  have read' : s.vocabulary.read (σ.command s.zone c).text = .ok (σ.command s.zone c) := by
    rw [standard.vocabulary]
    exact Vocabulary.read_text writable'
  have numbered : σ.Image s.zone (Settings.numbered st) (Settings.numbered st') :=
    ⟨image.activated, image.position, image.heading, image.pits, image.chain⟩
  have counted : Sound s.zone (Settings.numbered st) :=
    ⟨sound.position, sound.heading, sound.inside, sound.bare⟩
  have matched := respond_matches standard counted numbered writable shown
  obtain ⟨result, state⟩ := s.execute_of_read st read
  obtain ⟨result', state'⟩ := s.execute_of_read st' read'
  obtain ⟨output, ok, output', ok'⟩ := matched.result.exists_ok
  have after : σ.Image s.zone (s.execute st c.text).state
      (s.execute st' (σ.command s.zone c).text).state := by
    rw [state ok, state' ok', image.chain, after_command]
    exact ⟨matched.state.activated, matched.state.position, matched.state.heading,
      matched.state.pits, rfl⟩
  obtain ⟨tells, tells'⟩ := after.tells (Settings.execute_sound c.text sound) traced
  rw [state ok] at tells
  rw [state' ok'] at tells'
  rw [result, result', Settings.tell_of_tells tells, Settings.tell_of_tells tells']
  exact ⟨after, matched.result⟩

/-- Commands and their images under a symmetry of the zone keep two rovers in step, as long as the
coordinates that are told, by a report or by the trace, can be written. They always can if the zone
has at most `10 ^ maxDigits` cells a side. -/
theorem execute_symmetric (standard : s.IsStandard) (sound : Sound s.zone st)
    (image : σ.Image s.zone st st') {commands : List Command}
    (writable : ∀ c ∈ commands, c.IsWritable ∧ (σ.command s.zone c).IsWritable)
    (shown : s.zone.size ≤ 10 ^ Numeral.maxDigits ∨
      ∀ i cell, commands[i]? = some .report ∨ s.traced = true ∧ 0 < i ∧ i ≤ commands.length →
        (s.before st (commands.map Command.text) i).position = some cell →
          cell.IsWritable ∧ (σ.cell s.zone cell).IsWritable) :
    let lines := commands.map Command.text
    let lines' := (commands.map (σ.command s.zone)).map Command.text
    ∀ i ≤ commands.length,
      σ.Image s.zone (s.before st lines i) (s.before st' lines' i) ∧
        ∀ line line', lines[i]? = some line → lines'[i]? = some line' →
          σ.SameKind s (s.before st lines i).pose? (s.execute (s.before st lines i) line).result
            (s.execute (s.before st' lines' i) line').result := by
  intro lines lines'
  have line {i : Nat} (lt : i < commands.length) : lines[i]? = some commands[i].text := by
    simp [lines, lt]
  have told (i : Nat) (sound : Sound s.zone (s.before st lines i))
      (asked : commands[i]? = some .report ∨ s.traced = true ∧ 0 < i ∧ i ≤ commands.length)
      (cell : Cell) (here : (s.before st lines i).position = some cell) :
      cell.IsWritable ∧ (σ.cell s.zone cell).IsWritable := by
    rcases shown with narrow | shown
    · have inside := (sound.inside cell here).1
      exact ⟨isWritable_of_contains narrow inside,
        isWritable_of_contains narrow ((contains_cell cell).2 inside)⟩
    · exact shown i cell asked here
  have step {i : Nat} (lt : i < commands.length) (sound : Sound s.zone (s.before st lines i))
      (image : σ.Image s.zone (s.before st lines i) (s.before st' lines' i)) :
      σ.Image s.zone (s.execute (s.before st lines i) commands[i].text).state
          (s.execute (s.before st' lines' i) (σ.command s.zone commands[i]).text).state ∧
        σ.SameKind s (s.before st lines i).pose?
          (s.execute (s.before st lines i) commands[i].text).result
          (s.execute (s.before st' lines' i) (σ.command s.zone commands[i]).text).result := by
    obtain ⟨fits, fits'⟩ := writable _ (List.getElem_mem lt)
    refine execute_matches standard sound image fits fits' (fun asked => ?_) (fun traced => ?_)
    · exact told i sound (.inl (by rw [List.getElem?_eq_getElem lt, asked]))
    · rw [← Settings.before_succ (line lt)]
      apply told (i + 1) _ (.inr ⟨traced, Nat.succ_pos i, lt⟩)
      rw [Settings.before_succ (line lt)]
      exact Settings.execute_sound _ sound
  have line' {i : Nat} (lt : i < commands.length) :
      lines'[i]? = some (σ.command s.zone commands[i]).text := by
    simp [lines', lt]
  have run (i : Nat) (le : i ≤ commands.length) : Sound s.zone (s.before st lines i) ∧
      σ.Image s.zone (s.before st lines i) (s.before st' lines' i) := by
    induction i with
    | zero => exact ⟨sound, image⟩
    | succ i ih =>
        obtain ⟨sound, image⟩ := ih (by omega)
        rw [Settings.before_succ (line le), Settings.before_succ (line' le)]
        exact ⟨Settings.execute_sound _ sound, (step le sound image).1⟩
  intro i le
  obtain ⟨sound, image⟩ := run i le
  refine ⟨image, fun given given' at_i at_i' => ?_⟩
  have lt : i < commands.length := by
    obtain ⟨lt, -⟩ := List.getElem?_eq_some_iff.1 at_i
    rwa [List.length_map] at lt
  obtain rfl := Option.some.inj ((line lt).symm.trans at_i)
  obtain rfl := Option.some.inj ((line' lt).symm.trans at_i')
  exact (step lt sound image).2

theorem execute_symmetric_cornered :
    ∃ (s : Settings) (commands : List Command), s.IsStandard ∧
      commands = [.deploy ⟨0, 9⟩ .east, .pit ⟨1, 9⟩, .pit ⟨-3, 12⟩, .move, .left, .move, .report] ∧
      ∀ σ : Symmetry, ∃ st st',
        s.before State.initial (commands.map Command.text) 6 = st ∧
        s.before State.initial ((commands.map (σ.command s.zone)).map Command.text) 6 = st' ∧
        σ.Image s.zone st st' ∧ st.pits.size = 2 ∧
        σ.SameKind s st.pose? (s.execute st "REPORT".toList).result
          (s.execute st' "REPORT".toList).result ∧
        (s.execute st "REPORT".toList).result = .ok (some "0,9,NORTH".toList) ∧
        (s.execute st' "REPORT".toList).result =
          .ok (some (if σ = .turn then "9,9,EAST".toList else "9,9,NORTH".toList)) := by
  refine ⟨Settings.standard, _, ⟨rfl, rfl, rfl⟩, rfl, fun σ => ⟨_, _, rfl, rfl, ?_⟩⟩
  have standard : Settings.standard.IsStandard := ⟨rfl, rfl, rfl⟩
  have writable : ∀ c ∈ [Command.deploy ⟨0, 9⟩ .east, .pit ⟨1, 9⟩, .pit ⟨-3, 12⟩, .move, .left,
      .move, .report], c.IsWritable ∧ (σ.command Settings.standard.zone c).IsWritable := by
    cases σ <;> decide +kernel
  obtain ⟨image, same⟩ := execute_symmetric standard (Sound.initial _) (Image.initial σ _) writable
    (.inl (by decide +kernel)) 6 (by decide)
  refine ⟨image, by decide +kernel, same _ _ rfl ?_, by decide +kernel, ?_⟩
  · cases σ <;> rfl
  · cases σ <;> decide +kernel

end Symmetry

end Rover
