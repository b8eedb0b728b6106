import Rover.Proofs.Footprint
import Rover.Proofs.Unbroken
import Rover.Proofs.UnescapedRuns

namespace Rover

open Text

def Errand.NoEscape (e : Encoding) : Errand → Prop
  | .execute line => line.NoEscape
  | .executeAll lines => ∀ line ∈ lines, line.NoEscape
  | .process stream => stream.NoEscape e
  | .start stream => stream.NoEscape e
  | _ => True

/-- No text of a request starts a control sequence. Raw lines are read as the vehicle reads them
that they are sent to. -/
def Request.NoEscape (f : Fleet) : Request → Prop
  | .make plan => ∀ zone, (plan.settings zone).NoEscape
  | .send i errand => ∀ v, f.vehicles[i]? = some v → errand.NoEscape v.settings.encoding
  | _ => True

structure Vehicle.NoEscape (v : Vehicle) : Prop where
  settings : v.settings.NoEscape
  state : v.state.NoEscape

structure Fleet.NoEscape (f : Fleet) : Prop where
  vehicles : ∀ v ∈ f.vehicles, v.NoEscape
  runs : ∀ run ∈ f.runs,
    ∃ v, f.vehicles[run.vehicle]? = some v ∧ run.feed.NoEscape v.settings.encoding

def Reply.diagnostic? (r : Reply) : Option Diagnostic :=
  match r.answer with
  | .stretch x _ => x.ending.diagnostic?
  | _ => none

structure Reply.NoEscape (r : Reply) : Prop where
  log : ∀ entry ∈ r.log, entry.NoEscape
  diagnostic : ∀ d, r.diagnostic? = some d → d.NoEscape

theorem Stretch.NoEscape.reply {e : Encoding} {x : Stretch} (clear : x.NoEscape e) (taken : Nat) :
    Reply.NoEscape ⟨.stretch x taken, x.log⟩ where
  log := clear.log
  diagnostic := clear.diagnostic

theorem Reply.noEscape_of_log {r : Reply} (silent : r.diagnostic? = none)
    (log : ∀ entry ∈ r.log, entry.NoEscape) : r.NoEscape where
  log := log
  diagnostic := by
    intro d found
    rw [silent] at found
    cases found

theorem Reply.noEscape_of_silent {answer : Answer}
    (silent : Reply.diagnostic? ⟨answer, []⟩ = none) : Reply.NoEscape ⟨answer, []⟩ := by
  apply noEscape_of_log silent
  intro entry member
  cases member

namespace Fleet

variable {f : Fleet} {i : Nat} {v : Vehicle}

namespace NoEscape

theorem empty : Fleet.empty.NoEscape where
  vehicles := by
    intro v member
    cases member
  runs := by
    intro run member
    cases member

variable (clear : f.NoEscape)

include clear

theorem setState {st : State} (named : st.NoEscape) : (f.setState i st).NoEscape where
  vehicles := by
    intro v member
    obtain ⟨j, found⟩ := List.mem_iff_getElem?.1 member
    rw [setState_vehicles] at found
    split at found
    · obtain ⟨before, there, rfl⟩ := Option.map_eq_some_iff.1 found
      exact ⟨(clear.vehicles before (List.mem_of_getElem? there)).settings, named⟩
    · exact clear.vehicles v (List.mem_of_getElem? found)
  runs := by
    intro run member
    obtain ⟨v, there, feed⟩ := clear.runs run member
    rw [setState_vehicles, there]
    by_cases here : i = run.vehicle
    · rw [if_pos here]
      exact ⟨_, rfl, feed⟩
    · rw [if_neg here]
      exact ⟨v, rfl, feed⟩

theorem addRun {run : Run} (hv : f.vehicles[run.vehicle]? = some v)
    (feed : run.feed.NoEscape v.settings.encoding) :
    Fleet.NoEscape { f with runs := f.runs ++ [run] } where
  vehicles := clear.vehicles
  runs := by
    rw [List.forall_mem_append]
    exact ⟨clear.runs, List.forall_mem_singleton.2 ⟨v, hv, feed⟩⟩

theorem setRun (k : Nat) (run : Run) (hv : f.vehicles[run.vehicle]? = some v)
    (feed : run.feed.NoEscape v.settings.encoding) : (f.setRun k run).NoEscape where
  vehicles := clear.vehicles
  runs := by
    intro other member
    rcases List.mem_or_eq_of_mem_set member with member | rfl
    · exact clear.runs other member
    · exact ⟨v, hv, feed⟩

theorem addVehicle (plain : v.NoEscape) :
    Fleet.NoEscape { f with vehicles := f.vehicles ++ [v] } where
  vehicles := by
    rw [List.forall_mem_append]
    exact ⟨clear.vehicles, List.forall_mem_singleton.2 plain⟩
  runs := by
    intro run member
    obtain ⟨w, there, feed⟩ := clear.runs run member
    have lt := (List.getElem?_eq_some_iff.1 there).1
    exact ⟨w, (List.getElem?_append_left lt).trans there, feed⟩

theorem setColoured (on : Bool) : Fleet.NoEscape { f with coloured := on } :=
  ⟨clear.vehicles, clear.runs⟩

theorem make {plan : Plan} (plain : ∀ zone, (plan.settings zone).NoEscape) :
    (f.make plan).1.NoEscape := by
  simp only [Fleet.make]
  split
  · exact clear
  · rename_i zone size
    split
    · exact clear.setColoured _
    · rename_i settings checked
      rw [(Settings.of_checked_eq_ok checked).2]
      have unnamed : State.initial.NoEscape := by
        intro t found
        cases found
      exact (clear.setColoured _).addVehicle ⟨plain zone, unnamed⟩

theorem carryOut (hv : f.vehicles[i]? = some v) {errand : Errand}
    (plain : errand.NoEscape v.settings.encoding) :
    (f.carryOut i v errand).1.NoEscape ∧ (f.carryOut i v errand).2.NoEscape := by
  obtain ⟨settings, named⟩ := clear.vehicles v (List.mem_of_getElem? hv)
  cases errand with
  | execute line =>
      obtain ⟨entries, -, state⟩ := settings.execute v.state plain named
      refine ⟨clear.setState state, Reply.noEscape_of_log ?_ entries⟩
      simp only [Fleet.carryOut]
      cases (v.settings.execute v.state line).result <;> rfl
  | executeAll lines =>
      obtain ⟨state, entries⟩ := settings.executeAll plain named
      refine ⟨clear.setState state, Reply.noEscape_of_log ?_ entries⟩
      simp only [Fleet.carryOut]
      cases (v.settings.executeAll v.state lines).2.2 <;> rfl
  | process stream =>
      have waiting : (Feed.waiting stream).NoEscape v.settings.encoding := plain
      have ran := Feed.noEscape_run settings f.coloured (v.settings.enough stream) waiting named
      exact ⟨clear.setState ran.state, ran.reply _⟩
  | start stream => exact ⟨clear.addRun hv plain, Reply.noEscape_of_silent rfl⟩
  | report =>
      refine ⟨clear, Reply.noEscape_of_silent ?_⟩
      cases v.settings.report v.state <;> rfl
  | reset => exact ⟨clear.setState named, Reply.noEscape_of_silent rfl⟩
  | dig cell => exact ⟨clear.setState named, Reply.noEscape_of_silent rfl⟩

theorem next {k : Nat} {run : Run} (hv : f.vehicles[run.vehicle]? = some v)
    (feed : run.feed.NoEscape v.settings.encoding) (quota : Nat) :
    (f.next k run v quota).1.NoEscape ∧ (f.next k run v quota).2.NoEscape := by
  obtain ⟨settings, named⟩ := clear.vehicles v (List.mem_of_getElem? hv)
  obtain ⟨stretch, left⟩ := Feed.noEscape_resume settings f.coloured quota feed named
  refine ⟨?_, stretch.reply _⟩
  have moved : (f.setState run.vehicle _).NoEscape := clear.setState stretch.state
  have there : (f.setState run.vehicle
        (run.feed.resume v.settings f.coloured quota v.state).1.state).vehicles[run.vehicle]? =
      some ⟨v.settings, (run.feed.resume v.settings f.coloured quota v.state).1.state⟩ := by
    rw [setState_vehicles, if_pos rfl, hv]
    rfl
  exact moved.setRun k ⟨run.vehicle, _, _⟩ there left

theorem serve {r : Request} (plain : r.NoEscape f) :
    (f.serve r).1.NoEscape ∧ (f.serve r).2.NoEscape := by
  cases r with
  | make plan =>
      refine ⟨clear.make plain, Reply.noEscape_of_silent ?_⟩
      split
      · rfl
      · dsimp only
        split <;> rfl
  | colour on => exact ⟨clear.setColoured on, Reply.noEscape_of_silent rfl⟩
  | send i errand =>
      simp only [Fleet.serve]
      cases hv : f.vehicles[i]? with
      | none => exact ⟨clear, Reply.noEscape_of_silent rfl⟩
      | some v => exact clear.carryOut hv (plain v hv)
  | next k quota =>
      simp only [Fleet.serve]
      cases hk : f.runs[k]? with
      | none => exact ⟨clear, Reply.noEscape_of_silent rfl⟩
      | some run =>
          obtain ⟨v, hv, feed⟩ := clear.runs run (List.mem_of_getElem? hk)
          simp only [hv]
          exact clear.next hv feed quota
  | close k =>
      simp only [Fleet.serve]
      cases hk : f.runs[k]? with
      | none => exact ⟨clear, Reply.noEscape_of_silent rfl⟩
      | some run =>
          obtain ⟨v, hv, -⟩ := clear.runs run (List.mem_of_getElem? hk)
          have spent : Feed.spent.NoEscape v.settings.encoding := trivial
          exact ⟨clear.setRun k { run with feed := .spent } hv spent, Reply.noEscape_of_silent rfl⟩

end NoEscape

def HearsNoEscape (f : Fleet) (requests : List Request) : Prop :=
  ∀ (n : Nat) (r : Request), requests[n]? = some r → r.NoEscape (f.atStep requests n)

theorem NoEscape.atStep (clear : f.NoEscape) {requests : List Request}
    (plain : f.HearsNoEscape requests) (n : Nat) : (f.atStep requests n).NoEscape := by
  induction n with
  | zero => exact clear
  | succ n ih =>
      cases hr : requests[n]? with
      | none =>
          rw [f.atStep_succ_of_none hr]
          exact ih
      | some r =>
          rw [f.atStep_succ hr]
          exact (ih.serve (plain n r hr)).1

theorem NoEscape.replyAt (clear : f.NoEscape) {requests : List Request}
    (plain : f.HearsNoEscape requests) {n : Nat} {x : Reply}
    (answered : f.replyAt requests n = some x) : x.NoEscape := by
  obtain ⟨r, hr, rfl⟩ := Option.map_eq_some_iff.1 answered
  exact ((clear.atStep plain n).serve (plain n r hr)).2

end Fleet

theorem Request.noEscape_stripped (traces : Bool) (f : Fleet) (r : Request) :
    (r.stripped traces).NoEscape (f.stripped traces) ↔ r.NoEscape f := by
  cases r with
  | make plan =>
      -- a wish to trace is no text
      have settings (s : Settings) : (s.stripped traces).NoEscape ↔ s.NoEscape :=
        ⟨fun c => ⟨c.wording, c.vocabulary, c.overrides⟩,
          fun c => ⟨c.wording, c.vocabulary, c.overrides⟩⟩
      exact forall_congr' fun zone => settings (plan.settings zone)
  | send i errand =>
      simp only [stripped, NoEscape, Fleet.stripped_vehicles]
      cases f.vehicles[i]? with
      | none => simp
      | some v => simp [Vehicle.stripped, Settings.stripped]
  | _ => rfl

theorem Request.noEscape_congr {f g : Fleet}
    (same : f.vehicles.map Vehicle.settings = g.vehicles.map Vehicle.settings) (r : Request) :
    r.NoEscape f ↔ r.NoEscape g := by
  cases r with
  | send i errand =>
      have here := congrArg (·[i]?) same
      simp only [List.getElem?_map] at here
      simp only [NoEscape]
      cases hf : f.vehicles[i]? with
      | none =>
          rw [hf, Option.map_none] at here
          simp [Option.map_eq_none_iff.1 here.symm]
      | some v =>
          rw [hf, Option.map_some] at here
          obtain ⟨w, hg, settings⟩ := Option.map_eq_some_iff.1 here.symm
          simp [hg, settings]
  | _ => rfl

namespace Fleet

variable {f : Fleet} {requests others : List Request} {traces : Bool}

theorem stripped_settings (traces : Bool) (f : Fleet) :
    (f.stripped traces).vehicles.map Vehicle.settings =
      (f.vehicles.map Vehicle.settings).map (Settings.stripped traces) := by
  simp only [stripped, List.map_map]
  rfl

theorem atStep_stripped_settings
    (same : requests.map (Request.stripped traces) = others.map (Request.stripped traces))
    (n : Nat) :
    ((f.atStep requests n).stripped traces).vehicles.map Vehicle.settings =
      ((f.atStep others n).stripped traces).vehicles.map Vehicle.settings := by
  have made (rs : List Request) : (rs.filterMap Request.made).map (Settings.stripped traces) =
      (rs.map (Request.stripped traces)).filterMap Request.made := by
    rw [List.map_filterMap, List.filterMap_map]
    congr 1
    funext r
    exact (r.made_stripped traces).symm
  rw [stripped_settings, stripped_settings, atStep, atStep, serveAll_settings, serveAll_settings,
    List.map_append, List.map_append, made, made, List.map_take, List.map_take, same]

theorem HearsNoEscape.of_stripped
    (same : requests.map (Request.stripped traces) = others.map (Request.stripped traces))
    (plain : f.HearsNoEscape requests) : f.HearsNoEscape others := by
  intro n r' hr'
  have here := congrArg (·[n]?) same
  simp only [List.getElem?_map, hr', Option.map_some, Option.map_eq_some_iff] at here
  obtain ⟨r, hr, eq⟩ := here
  rw [← r'.noEscape_stripped traces, ← eq,
    ← Request.noEscape_congr (atStep_stripped_settings same n), r.noEscape_stripped traces]
  exact plain n r hr

end Fleet

namespace Diagnostic.NoEscape

variable {d : Diagnostic} (clear : d.NoEscape)

include clear

theorem dropStyles_kind : dropStyles d.kind = (d.recoloured false).kind := by
  have issue := clear.issue
  simp only [Issue.styled, Styled.text_append, noEscape_append] at issue
  have whole := Styled.dropStyles_render issue.1.1 d.coloured []
  rwa [dropStyles_nil, List.append_nil, List.append_nil] at whole

theorem dropStyles_body : dropStyles d.body = (d.recoloured false).body := by
  have whole := Styled.dropStyles_render clear.issue d.coloured []
  rwa [dropStyles_nil, List.append_nil, List.append_nil] at whole

theorem dropStyles_text (coloured : Bool) :
    dropStyles (d.text coloured) = (d.recoloured false).text false := by
  have colon : Text.NoEscape ": ".toList := by decide
  simp only [Diagnostic.text]
  rw [List.append_assoc]
  cases placed : d.place with
  | none =>
      have unplaced : Text.NoEscape "None".toList := by decide
      rw [show (d.recoloured false).place = d.place from rfl, placed]
      rw [dropStyles_append unplaced, dropStyles_append colon, clear.dropStyles_body,
        List.append_assoc]
  | some p =>
      rw [show (d.recoloured false).place = d.place from rfl, placed]
      simp only [Place.render]
      rw [Styled.dropStyles_render (clear.place p placed), dropStyles_append colon,
        clear.dropStyles_body, List.append_assoc, Styled.render_false]

end Diagnostic.NoEscape

theorem Ending.diagnostic_recoloured (coloured : Bool) (e : Ending) :
    (e.recoloured coloured).diagnostic? =
      e.diagnostic?.map (Diagnostic.recoloured coloured) := by
  cases e with
  | stopped why => cases why <;> rfl
  | _ => rfl

namespace Reply

variable (traces : Bool) (r : Reply)

theorem stripped_warnings : (r.stripped traces).warnings = r.warnings :=
  Entry.kept_warnings traces r.log

theorem stripped_yielded : (r.stripped traces).answer.yielded = r.answer.yielded := by
  obtain ⟨answer, log⟩ := r
  cases answer with
  | stretch x taken => exact Entry.kept_outputs traces x.log
  | _ => rfl

theorem stripped_diagnostic :
    (r.stripped traces).diagnostic? = r.diagnostic?.map (Diagnostic.recoloured false) := by
  obtain ⟨answer, log⟩ := r
  cases answer with
  | stretch x taken => exact x.ending.diagnostic_recoloured false
  | _ => rfl

theorem stripped_log : (r.stripped true).log = r.log := by
  apply List.filter_eq_self.2
  intro e member
  cases e <;> rfl

theorem stripped_stripped_true : (r.stripped true).stripped false = r.stripped false := by
  have kept (log : List Entry) : Entry.kept false (Entry.kept true log) = Entry.kept false log := by
    rw [Entry.kept, Entry.kept, List.filter_filter]
    exact List.filter_congr fun e _ => by cases e <;> rfl
  have recoloured (e : Ending) : (e.recoloured false).recoloured false = e.recoloured false := by
    cases e with
    | stopped why => cases why <;> rfl
    | _ => rfl
  obtain ⟨answer, log⟩ := r
  cases answer with
  | stretch x taken =>
      simp only [stripped, Answer.stripped, Stretch.stripped, kept, recoloured]
  | _ => simp only [stripped, Answer.stripped, kept]

variable {traces : Bool} {r : Reply}

theorem NoEscape.dropStyles_shown (clear : r.NoEscape) (coloured : Bool) :
    dropStyles (r.shown coloured) =
      (r.log.filterMap Entry.trace?).flatMap fun line => line.text ++ ['\n'] := by
  have each : ∀ line ∈ r.log.filterMap Entry.trace?, line.text.NoEscape := by
    intro line member
    obtain ⟨e, logged, eq⟩ := List.mem_filterMap.1 member
    have plain := clear.log e logged
    cases e with
    | trace other =>
        obtain rfl := Option.some.inj eq
        exact plain
    | _ => cases eq
  simp only [shown]
  generalize r.log.filterMap Entry.trace? = traces at each
  induction traces with
  | nil => exact dropStyles_nil
  | cons line traces ih =>
      obtain ⟨here, later⟩ := List.forall_mem_cons.1 each
      rw [List.flatMap_cons, Styled.dropStyles_printed here, ih later, List.flatMap_cons]
      simp

theorem NoEscape.warnings (clear : r.NoEscape) : ∀ w ∈ r.warnings, w.NoEscape := by
  intro w member
  obtain ⟨e, logged, eq⟩ := List.mem_filterMap.1 member
  have plain := clear.log e logged
  cases e with
  | warning text =>
      obtain rfl := Option.some.inj eq
      exact plain
  | _ => cases eq

end Reply

namespace Fleet

theorem stripped_states (traces : Bool) (f : Fleet) :
    (f.stripped traces).vehicles.map Vehicle.state = f.vehicles.map Vehicle.state :=
  List.map_map ..

theorem stripped_stripped_true (f : Fleet) :
    (f.stripped true).stripped false = f.stripped false := by
  simp only [stripped, List.map_map]
  rfl

theorem session_alike {requests others : List Request} {n : Nat}
    (alike : requests.map (Request.stripped false) = others.map (Request.stripped false))
    (whole : requests.map (Request.stripped true) = others.map (Request.stripped true) ∨
      empty.UnbrokenTo requests n ∧ empty.UnbrokenTo others n) :
    (empty.atStep requests n).stripped false = (empty.atStep others n).stripped false ∧
      (empty.replyAt requests n).map (Reply.stripped false) =
        (empty.replyAt others n).map (Reply.stripped false) := by
  rcases whole with traced | whole
  · obtain ⟨fleets, replies⟩ := empty.session_stripped traced (.inl rfl)
    have fleets := congrArg (Fleet.stripped false) fleets
    have replies := congrArg (Option.map (Reply.stripped false)) replies
    rw [stripped_stripped_true, stripped_stripped_true] at fleets
    have twice : Reply.stripped false ∘ Reply.stripped true = Reply.stripped false :=
      funext Reply.stripped_stripped_true
    rw [Option.map_map, Option.map_map, twice] at replies
    exact ⟨fleets, replies⟩
  · exact empty.session_stripped alike (.inr whole)

/-- Sessions that differ in nothing but traces and colours go the same way: at every step all
vehicles are in the same states, and replies differ in nothing but traces and colours. Where no
text starts a control sequence, the codes of styles are all that colours bring to a report or to a
trace, and none of them gets into a warning. This takes that the traces are the same, or that none
broke off so far; and none does as long as all cells of traced zones can be written. -/
theorem session_unstyled {requests others : List Request}
    (alike : requests.map (Request.stripped false) = others.map (Request.stripped false)) :
    ((∀ r ∈ requests, r.IsNarrow) → ∀ n, empty.UnbrokenTo requests n) ∧
    ∀ n, requests.map (Request.stripped true) = others.map (Request.stripped true) ∨
        empty.UnbrokenTo requests n ∧ empty.UnbrokenTo others n →
      (empty.atStep others n).vehicles.map Vehicle.state =
          (empty.atStep requests n).vehicles.map Vehicle.state ∧
        (empty.replyAt others n).map (Reply.stripped false) =
          (empty.replyAt requests n).map (Reply.stripped false) ∧
        ∀ x y, empty.replyAt requests n = some x → empty.replyAt others n = some y →
          y.answer.yielded = x.answer.yielded ∧ y.warnings = x.warnings ∧
          y.diagnostic?.map (fun d => (d.place, d.issue)) =
            x.diagnostic?.map (fun d => (d.place, d.issue)) ∧
          (empty.HearsNoEscape requests →
            (∀ w ∈ x.warnings, w.NoEscape) ∧
            (∀ d d', x.diagnostic? = some d → y.diagnostic? = some d' →
              dropStyles d'.kind = dropStyles d.kind ∧ dropStyles d'.body = dropStyles d.body ∧
              ∀ on off, dropStyles (d'.text off) = dropStyles (d.text on)) ∧
            (requests.map (Request.stripped true) = others.map (Request.stripped true) →
              ∀ on off, dropStyles (y.shown off) = dropStyles (x.shown on))) := by
  refine ⟨unbrokenTo_of_narrow, fun n whole => ?_⟩
  obtain ⟨fleets, replies⟩ := session_alike alike whole
  refine ⟨?_, replies.symm, ?_⟩
  · rw [← stripped_states false, ← fleets, stripped_states]
  · intro x y hx hy
    rw [hx, hy] at replies
    have same : x.stripped false = y.stripped false := Option.some.inj replies
    have diagnostics :
        y.diagnostic?.map (Diagnostic.recoloured false) =
          x.diagnostic?.map (Diagnostic.recoloured false) := by
      rw [← y.stripped_diagnostic false, ← same, x.stripped_diagnostic]
    refine ⟨?_, ?_, ?_, ?_⟩
    · rw [← y.stripped_yielded false, ← same, x.stripped_yielded]
    · rw [← y.stripped_warnings false, ← same, x.stripped_warnings]
    · have told := congrArg (Option.map fun d => (d.place, d.issue)) diagnostics
      rwa [Option.map_map, Option.map_map] at told
    · intro plain
      have clear := NoEscape.empty.replyAt plain hx
      -- the other session has the same texts, so its reply is clear as well
      have clear' := NoEscape.empty.replyAt (plain.of_stripped alike) hy
      refine ⟨clear.warnings, ?_, ?_⟩
      · intro d d' hd hd'
        rw [hd, hd'] at diagnostics
        have recoloured : d'.recoloured false = d.recoloured false := Option.some.inj diagnostics
        have old := clear.diagnostic d hd
        have new := clear'.diagnostic d' hd'
        refine ⟨?_, ?_, ?_⟩
        · rw [new.dropStyles_kind, recoloured, old.dropStyles_kind]
        · rw [new.dropStyles_body, recoloured, old.dropStyles_body]
        · intro on off
          rw [new.dropStyles_text, recoloured, old.dropStyles_text]
      · intro traced on off
        obtain ⟨-, replies⟩ := empty.session_stripped traced (n := n) (.inl rfl)
        rw [hx, hy] at replies
        have logs := congrArg Reply.log (Option.some.inj replies)
        rw [x.stripped_log, y.stripped_log] at logs
        rw [clear'.dropStyles_shown, clear.dropStyles_shown, logs]

/-- A trace that breaks off fails a request that is answered without it. -/
theorem session_breaks_off :
    ∃ (n : Nat) (requests : Bool → List Request), n + 1 = 10 ^ Numeral.maxDigits ∧
      (∀ traced, requests traced =
        [.make ⟨.whole (n + 2 : Nat), Wording.standard, Vocabulary.standard, Table.empty, .utf8,
          false, traced, false⟩, .send 0 (.execute (Settings.deployAt n)),
          .send 0 (.execute "MOVE".toList)]) ∧
      (requests true).map (Request.stripped false) = (requests false).map (Request.stripped false) ∧
      (∃ output, (empty.replyAt (requests false) 2).map Reply.answer = some (.output output)) ∧
      (empty.replyAt (requests true) 2).map Reply.answer = some (.crash (.untold .overlong)) := by
  obtain ⟨n, most, short, long⟩ := Settings.exists_last_writable
  let plan (traced : Bool) : Plan :=
    ⟨.whole (n + 2 : Nat), Wording.standard, Vocabulary.standard, Table.empty, .utf8, false, traced,
      false⟩
  let requests (traced : Bool) : List Request :=
    [.make (plan traced), .send 0 (.execute (Settings.deployAt n)),
      .send 0 (.execute "MOVE".toList)]
  let s (traced : Bool) : Settings := { Settings.broad n with traced }
  have made (traced : Bool) :
      empty.atStep (requests traced) 1 = ⟨false, [⟨s traced, State.initial⟩], []⟩ := by
    have size : (plan traced).size.zone = .ok (s traced).zone :=
      zone_of_positive (Nat.succ_pos (n + 1))
    have unhandled : ((plan traced).settings (s traced).zone).unhandled = [] := by
      change Settings.standard.unhandled = []
      decide +kernel
    have done : (empty.serve (.make (plan traced))).2.answer = .done := by
      simp only [serve, Fleet.make, size, Settings.checked, unhandled, if_true]
    exact serve_make_done size done
  have landed (traced : Bool) :
      empty.atStep (requests traced) 2 = ⟨false, [⟨s traced, Settings.landedAt n⟩], []⟩ := by
    have state : ((s traced).execute State.initial (Settings.deployAt n)).state =
        Settings.landedAt n := (Settings.broad_deploy short).2
    rw [atStep_succ _ (r := .send 0 (.execute (Settings.deployAt n))) rfl, made]
    simp [Fleet.serve, carryOut, Fleet.setState, state]
  have answered (traced : Bool) : (empty.replyAt (requests traced) 2).map Reply.answer =
      some (answerOf ((s traced).execute (Settings.landedAt n) "MOVE".toList).result) := by
    change some ((empty.atStep (requests traced) 2).serve
      (.send 0 (.execute "MOVE".toList))).2.answer = _
    rw [landed]
    rfl
  obtain ⟨broke, -⟩ := Settings.broad_move long
  obtain ⟨-, -, ⟨output, quiet⟩, -⟩ :=
    (Settings.broad_reaches short).execute_untold_iff.1 broke
  refine ⟨n, requests, most, fun _ => rfl, rfl, ⟨output, ?_⟩, ?_⟩
  · exact (answered false).trans (congrArg (some ∘ answerOf) quiet)
  · exact (answered true).trans (congrArg (some ∘ answerOf) broke)

theorem session_unstyled_unreadable :
    ∃ (requests others : List Request) (x y : Reply) (d d' : Diagnostic),
      requests.map (Request.stripped true) = others.map (Request.stripped true) ∧
      requests.map (Request.stripped false) = others.map (Request.stripped false) ∧
      empty.UnbrokenTo requests 3 ∧ empty.HearsNoEscape requests ∧
      empty.replyAt requests 3 = some x ∧ empty.replyAt others 3 = some y ∧
      (empty.atStep requests 3).coloured = true ∧ (empty.atStep others 3).coloured = false ∧
      x.diagnostic? = some d ∧ y.diagnostic? = some d' ∧
      x.warnings = ["Skipping line 3:\"JUMP\": unknown command 'JUMP'".toList] ∧
      y.warnings = x.warnings ∧
      x.answer.yielded = ["1,1,EAST".toList] ∧ y.answer.yielded = x.answer.yielded ∧
      x.shown true ≠ y.shown false ∧ d.text true ≠ d'.text false ∧ d.body ≠ d'.body ∧
      dropStyles (y.shown false) = dropStyles (x.shown true) ∧
      dropStyles (d'.text false) = dropStyles (d.text true) ∧
      dropStyles d'.body = dropStyles d.body := by
  let plan (coloured : Bool) : Plan :=
    ⟨.whole 3, Wording.standard, Vocabulary.standard, Table.empty, .utf8, false, true, coloured⟩
  let requests (coloured : Bool) : List Request :=
    [.make (plan coloured), .send 0 (.execute "PIT 1,1".toList), .colour coloured,
      .send 0 (.process (.given (.items [.text "DEPLOY 1,1,EAST".toList, .text "REPORT".toList,
        .text "JUMP".toList, .raw [0x4D, 0xFF]]) (some "late".toList)))]
  have plain : empty.HearsNoEscape (requests true) := by
    intro n r hr
    match n, hr with
    | 0, hr =>
        obtain rfl := Option.some.inj hr
        intro zone
        refine ⟨Wording.noEscape_standard, Vocabulary.noEscape_standard, ?_⟩
        intro e member
        cases member
    | 1, hr =>
        obtain rfl := Option.some.inj hr
        intro v found
        exact (by decide : Text.NoEscape "PIT 1,1".toList)
    | 2, hr =>
        obtain rfl := Option.some.inj hr
        trivial
    | 3, hr =>
        obtain rfl := Option.some.inj hr
        intro v found
        have read : (empty.atStep (requests true) 3).vehicles[0]?.map (·.settings.encoding) =
          some .utf8 := by decide +kernel
        rw [found] at read
        have utf8 : v.settings.encoding = .utf8 := Option.some.inj read
        rw [utf8]
        refine ⟨by decide, ?_⟩
        simp only [Input.toItems, List.forall_mem_cons, Item.NoEscape]
        refine ⟨by decide, by decide, by decide, ?_, by simp⟩
        intro line decoded
        cases decoded
    | n + 4, hr => cases hr
  have narrow : ∀ r ∈ requests true, r.IsNarrow := by
    have few : 3 ≤ 10 ^ Numeral.maxDigits :=
      Nat.le_trans (by decide : 3 ≤ 10 ^ 1) (Nat.pow_le_pow_right (by decide) (by decide))
    simp only [requests, List.forall_mem_cons, Request.IsNarrow, true_and]
    refine ⟨fun _ zone size => ?_, by simp⟩
    obtain rfl := Except.ok.inj size
    exact few
  let x := ((empty.atStep (requests true) 3).serve (requests true)[3]).2
  let y := ((empty.atStep (requests false) 3).serve (requests false)[3]).2
  let d : Diagnostic := ⟨some ⟨some 4, none, some "late".toList⟩, .unreadable
    "'utf-8' codec can't decode byte 0xff in position 1: invalid start byte".toList, true⟩
  let d' := d.recoloured false
  have hd : x.diagnostic? = some d := by decide +kernel
  have hd' : y.diagnostic? = some d' := by decide +kernel
  have alike : (requests true).map (Request.stripped false) =
    (requests false).map (Request.stripped false) := rfl
  obtain ⟨unbroken, step⟩ := session_unstyled alike
  obtain ⟨-, -, replies⟩ := step 3 (.inl rfl)
  obtain ⟨outputs, warnings, -, unstyled⟩ := replies x y rfl rfl
  obtain ⟨-, reports, traces⟩ := unstyled plain
  obtain ⟨-, bodies, texts⟩ := reports d d' hd hd'
  refine ⟨requests true, requests false, x, y, d, d', rfl, rfl, unbroken narrow 3, plain, rfl, rfl,
    by decide +kernel, by decide +kernel, hd, hd', by decide +kernel, warnings, by decide +kernel,
    outputs, by decide +kernel, by decide +kernel, by decide +kernel, traces rfl true false,
    texts true false, bodies⟩

end Fleet

end Rover
