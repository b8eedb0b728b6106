import Rover.Proofs.Lookups
import Rover.Proofs.Report
import Rover.Proofs.Writing

namespace Rover

namespace Template

variable {shown : Field → Except Flaw Text}

def escaped (s : Text) : Text := s.flatMap fun c => if c = '{' ∨ c = '}' then [c, c] else [c]

theorem expandWith_opening (rest : Text) :
    expandWith shown ('{' :: '{' :: rest) = (expandWith shown rest).map ('{' :: ·) := by
  rw [expandWith]
  cases expandWith shown rest <;> rfl

theorem expandWith_closing (rest : Text) :
    expandWith shown ('}' :: '}' :: rest) = (expandWith shown rest).map ('}' :: ·) := by
  rw [expandWith]
  cases expandWith shown rest <;> rfl

theorem expandWith_escaped (s after : Text) :
    expandWith shown (escaped s ++ after) = (expandWith shown after).map (s ++ ·) := by
  induction s with
  | nil => cases h : expandWith shown after <;> simp [escaped, h, Except.map]
  | cons c rest ih =>
      have joined : escaped (c :: rest) ++ after =
          (if c = '{' ∨ c = '}' then [c, c] else [c]) ++ (escaped rest ++ after) := by
        simp [escaped]
      have step : expandWith shown (escaped (c :: rest) ++ after) =
          (expandWith shown (escaped rest ++ after)).map (c :: ·) := by
        rw [joined]
        split
        · rename_i brace
          rcases brace with rfl | rfl
          · exact expandWith_opening _
          · exact expandWith_closing _
        · rename_i plain
          obtain ⟨noOpening, noClosing⟩ := not_or.1 plain
          exact expandWith_char noOpening noClosing _
      rw [step, ih]
      cases expandWith shown after <;> rfl

end Template

namespace Wording

open Template

inductive Feature where
  | x
  | y
  | direction
  deriving DecidableEq, Repr

namespace Feature

def name : Feature → Text
  | .x => ['x']
  | .y => ['y']
  | .direction => "direction".toList

def value (p : Pose) : Feature → Value
  | .x => .number p.cell.x
  | .y => .number p.cell.y
  | .direction => .text p.heading.label

def text (p : Pose) : Feature → Text
  | .x => Numeral.ofInt p.cell.x
  | .y => Numeral.ofInt p.cell.y
  | .direction => p.heading.label

def Fits (p : Pose) : Feature → Prop
  | .x => Numeral.Writable p.cell.x
  | .y => Numeral.Writable p.cell.y
  | .direction => True

instance (p : Pose) : DecidablePred (Fits p)
  | .x => inferInstanceAs (Decidable (Numeral.Writable _))
  | .y => inferInstanceAs (Decidable (Numeral.Writable _))
  | .direction => isTrue trivial

theorem isPlain_name (f : Feature) : IsPlain f.name := by
  cases f
  · exact isPlain_x
  · exact isPlain_y
  · exact isPlain_direction

theorem fields_name (p : Pose) (f : Feature) : fields p f.name = some (f.value p) := by
  cases f <;> rfl

theorem plain_value (p : Pose) (f : Feature) :
    (f.value p).plain = if f.Fits p then .ok (f.text p) else .error .malformed := by
  cases f <;> rfl

end Feature

inductive Segment where
  | literal (s : Text)
  | feature (f : Feature)
  deriving DecidableEq, Repr

namespace Segment

def written : Segment → Text
  | .literal s => escaped s
  | .feature f => '{' :: (f.name ++ ['}'])

def shown (p : Pose) : Segment → Text
  | .literal s => s
  | .feature f => f.text p

def Fits (p : Pose) : Segment → Prop
  | .literal _ => True
  | .feature f => f.Fits p

instance (p : Pose) : DecidablePred (Fits p)
  | .literal _ => isTrue trivial
  | .feature f => inferInstanceAs (Decidable (f.Fits p))

variable {extras : Extras} {p : Pose} {expand : Text → Except Flaw Text}

theorem fits_of_isWritable (short : p.cell.IsWritable) (segment : Segment) : segment.Fits p := by
  cases segment with
  | literal s => trivial
  | feature f =>
      cases f with
      | x => exact short.1
      | y => exact short.2
      | direction => trivial

theorem expandWith_written (segment : Segment) (after : Text) :
    expandWith (showField extras (fields p) expand) (segment.written ++ after) =
      if segment.Fits p then
        (expandWith (showField extras (fields p) expand) after).map (segment.shown p ++ ·)
      else .error .malformed := by
  cases segment with
  | literal s => exact (expandWith_escaped s after).trans (if_pos trivial).symm
  | feature f =>
      have joined : (feature f).written ++ after = '{' :: (f.name ++ '}' :: after) := by
        simp [written]
      rw [joined, expandWith_name f.isPlain_name (f.fields_name p), f.plain_value p]
      change _ = if f.Fits p then
        (expandWith (showField extras (fields p) expand) after).map (f.text p ++ ·) else _
      split
      · cases expandWith (showField extras (fields p) expand) after <;> rfl
      · rfl

theorem expandWith_flatMap_written (segments : List Segment) :
    expandWith (showField extras (fields p) expand) (segments.flatMap written) =
      if ∀ segment ∈ segments, segment.Fits p then .ok (segments.flatMap (shown p))
      else .error .malformed := by
  induction segments with
  | nil => exact expandWith_nil.trans (if_pos fun _ member => absurd member List.not_mem_nil).symm
  | cons segment rest ih =>
      rw [List.flatMap_cons, expandWith_written, ih]
      by_cases first : segment.Fits p
      · by_cases others : ∀ segment ∈ rest, segment.Fits p
        · have all : ∀ other ∈ segment :: rest, other.Fits p :=
            List.forall_mem_cons.2 ⟨first, others⟩
          rw [if_pos first, if_pos others, if_pos all]
          rfl
        · have notAll : ¬ ∀ other ∈ segment :: rest, other.Fits p := fun all =>
            others (List.forall_mem_cons.1 all).2
          rw [if_pos first, if_neg others, if_neg notAll]
          rfl
      · have notAll : ¬ ∀ other ∈ segment :: rest, other.Fits p := fun all =>
          first (List.forall_mem_cons.1 all).1
        rw [if_neg first, if_neg notAll]

end Segment

theorem reportOf_of_segments {w : Wording} {segments : List Segment}
    (template : w.report = segments.flatMap Segment.written) (p : Pose) :
    w.reportOf p =
      if ∀ segment ∈ segments, segment.Fits p then .ok (segments.flatMap (Segment.shown p))
      else .error .malformed := by
  rw [reportOf, template]
  exact Segment.expandWith_flatMap_written segments

end Wording

namespace Settings

variable {s : Settings} {st : State} {pose : Pose} {text : Text}

theorem report_of_reportOf (on : st.activated = true) (here : st.pose? = some pose)
    (shown : s.wording.reportOf pose = .ok text) : s.report st = .ok (some text) := by
  simp only [report, on, here, shown, if_true]

theorem execute_of_report_keyword {line : Text} {c : Command} (on : st.activated = true)
    (bare : s.overrides.get? (Verb.keyword .report) = none) (tells : s.Tells st)
    (read : s.vocabulary.read line = .ok c) (asked : c.keyword = Verb.keyword .report) :
    (s.execute st line).result = s.report st := by
  have heeded : heeds (numbered st) c = true := heeds_of_activated on c
  have apart : ∀ verb ∈ [Verb.deploy, .pit, .move, .left, .right],
      verb.keyword ≠ Verb.keyword .report := by decide
  have told : s.obey (numbered st) c = ⟨numbered st, s.report (numbered st)⟩ := by
    cases c with
    | report => rfl
    | custom keyword arguments =>
        obtain rfl : keyword = Verb.keyword .report := asked
        rfl
    | deploy cell heading => exact absurd asked (apart .deploy (by decide))
    | pit cell => exact absurd asked (apart .pit (by decide))
    | move => exact absurd asked (apart .move (by decide))
    | left => exact absurd asked (apart .left (by decide))
    | right => exact absurd asked (apart .right (by decide))
  have still : s.Tells (numbered st) := by
    refine (tells_congr ?_ ?_ ?_).1 tells <;> rfl
  rw [(s.execute_of_read st read).1, respond, if_pos heeded, asked, bare, told, tell_of_tells still]
  rfl

end Settings

namespace Wording

open Fleet

/-- A template that is written segment by segment, whatever the texts between the features, makes
reports that show the segments one after the other, as long as the coordinates that they tell can
be written; and so is a report asked for in whatever way, wherever a deployed robot stands. -/
theorem report_tells_segments (segments : List Segment) :
    (∀ (w : Wording) (p : Pose), w.report = segments.flatMap Segment.written →
      (∀ segment ∈ segments, segment.Fits p) →
        w.reportOf p = .ok (segments.flatMap (Segment.shown p))) ∧
    ∀ (requests : List Request) (i : Nat) (v : Vehicle) (events : List Event),
      (Fleet.empty.serveAll requests).vehicles[i]? = some v →
      v.settings.wording.report = segments.flatMap Segment.written →
      let st := v.settings.replay v.state events
      st.activated = true →
        ∃ p, st.pose? = some p ∧ ((∀ segment ∈ segments, segment.Fits p) →
          v.settings.report st = .ok (some (segments.flatMap (Segment.shown p))) ∧
          (v.settings.overrides.get? (Verb.keyword .report) = none → v.settings.Tells st →
            ∀ line c, v.settings.vocabulary.read line = .ok c →
              c.keyword = Verb.keyword .report →
                (v.settings.execute st line).result =
                  .ok (some (segments.flatMap (Segment.shown p))))) := by
  refine ⟨fun w p template fits => ?_, ?_⟩
  · rw [reportOf_of_segments template, if_pos fits]
  · intro requests i v events hv template st on
    have none_yet : ∀ v ∈ Fleet.empty.vehicles, Fit v := fun v member =>
      absurd member List.not_mem_nil
    have fit : Fit v := serveAll_fit none_yet requests v (List.mem_of_getElem? hv)
    obtain ⟨p, here, -⟩ := Settings.replay_poised fit.poised events on
    refine ⟨p, here, fun fits => ?_⟩
    have shown : v.settings.wording.reportOf p = .ok (segments.flatMap (Segment.shown p)) := by
      rw [reportOf_of_segments template, if_pos fits]
    have told := Settings.report_of_reportOf on here shown
    refine ⟨told, fun bare tells line c read asked => ?_⟩
    rw [Settings.execute_of_report_keyword on bare tells read asked, told]

theorem report_tells_segments_braces :
    ∃ (segments : List Segment) (plan : Plan) (v : Vehicle) (st : State),
      segments = [.literal ['{'], .feature .x, .literal ['}'], .feature .direction, .feature .y,
        .literal ['{', 'x', '}']] ∧
      plan.wording.report =
        "\x7b\x7b{x}\x7d\x7d{direction}{y}\x7b\x7bx\x7d\x7d".toList ∧
      (Fleet.empty.serveAll
        [.make plan, .send 0 (.execute "DEPLOY 2,1,WEST".toList)]).vehicles[0]? = some v ∧
      st = v.settings.replay v.state [.line "RIGHT".toList] ∧ st.activated = true ∧
      v.settings.wording.reportOf ⟨⟨-2, 3⟩, .south⟩ = .ok "\x7b-2\x7dSOUTH3{x}".toList ∧
      v.settings.report st = .ok (some "\x7b2\x7dNORTH1{x}".toList) ∧
      (v.settings.execute st "  REPORT\t".toList).result =
        .ok (some "\x7b2\x7dNORTH1{x}".toList) := by
  let segments : List Segment :=
    [.literal ['{'], .feature .x, .literal ['}'], .feature .direction, .feature .y,
      .literal ['{', 'x', '}']]
  let plan : Plan :=
    ⟨.whole 3, { standard with report := segments.flatMap Segment.written }, Vocabulary.standard,
      Table.empty, .utf8, false, false, false⟩
  let v : Vehicle :=
    ⟨plan.settings ⟨3, by decide⟩,
      ⟨true, some ⟨2, 1⟩, some .west, Pits.empty, true, 1, none⟩⟩
  have hv : (Fleet.empty.serveAll
      [.make plan, .send 0 (.execute "DEPLOY 2,1,WEST".toList)]).vehicles[0]? = some v := by
    with_unfolding_all rfl
  obtain ⟨reports, asked⟩ := report_tells_segments segments
  obtain ⟨p, here, told⟩ := asked _ 0 v [.line "RIGHT".toList] hv rfl (by decide +kernel)
  have stands : (v.settings.replay v.state [.line "RIGHT".toList]).pose? =
      some ⟨⟨2, 1⟩, .north⟩ := by decide +kernel
  obtain rfl := Option.some.inj (here.symm.trans stands)
  obtain ⟨report, line⟩ := told fun segment _ => segment.fits_of_isWritable (by decide)
  have other := reports v.settings.wording ⟨⟨-2, 3⟩, .south⟩ rfl fun segment _ =>
    segment.fits_of_isWritable (by decide)
  exact ⟨segments, plan, v, _, rfl, by decide +kernel, hv, rfl, by decide +kernel, other, report,
    line rfl (Settings.tells_of_untraced rfl _) _ .report (by decide +kernel) rfl⟩

end Wording

end Rover
