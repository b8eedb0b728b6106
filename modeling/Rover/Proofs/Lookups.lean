import Rover.Proofs.Interleaving
import Rover.Proofs.Judging
import Rover.Proofs.Robustness

namespace Rover

open State

namespace Heading

theorem idxOf?_all (h : Heading) :
    ∃ n, all.idxOf? h = some n ∧ all[(n + 1) % all.length]? = some h.right ∧
      all[(n + (all.length - 1)) % all.length]? = some h.left := by
  cases h <;> exact ⟨_, rfl, rfl, rfl⟩

end Heading

namespace Slot

def converters : Table (Text → Option Argument) :=
  .ofList
    [(label .number, fun token =>
        if Numeral.Readable token then some (.number (Numeral.value token)) else none),
      (label .heading, fun token => (Heading.ofLabel? token).map .heading)]

/-- The slot has a converter, and what its recognizer accepts is in the domain of that. -/
def Converts (slot : Slot) : Prop :=
  ∃ convert, converters.get? slot.label = some convert ∧
    ∀ given token, slot.recognizer.matchAll? given = some token →
      (Numeral.IsNumeral token → Numeral.Readable token) →
        ∃ a, convert token = some a ∧
          ∀ (verb : Verb) (position : Nat), verb.readArgument position slot given = .ok a

theorem converts (slot : Slot) : slot.Converts := by
  cases slot with
  | number =>
      refine ⟨_, rfl, fun given token found short => ?_⟩
      have found : Recognizer.numeral.matchAll? given = some token := found
      obtain ⟨numeral, rfl⟩ := Recognizer.matchAll?_numeral.1 found
      refine ⟨.number (Numeral.value token), if_pos (short numeral), fun verb position => ?_⟩
      simp only [Verb.readArgument, found, short numeral, if_true]
  | heading =>
      refine ⟨_, rfl, fun given token found _ => ?_⟩
      have found : Recognizer.heading.matchAll? given = some token := found
      obtain ⟨h, rfl, rfl⟩ := Recognizer.matchAll?_heading.1 found
      refine ⟨.heading h,
        congrArg (Option.map Argument.heading) (Heading.ofLabel?_label h), fun verb position => ?_⟩
      simp only [Verb.readArgument, found, Heading.ofLabel?_label]

end Slot

/-- A verb is a standard one, or its keyword is none of theirs. -/
def Verb.IsOwn (verb : Verb) : Prop :=
  verb ∈ standard ∨ verb.keyword ∉ standard.map Verb.keyword

instance (verb : Verb) : Decidable verb.IsOwn := inferInstanceAs (Decidable (_ ∨ _))

theorem Verb.IsOwn.mem_standard {verb : Verb} (own : verb.IsOwn)
    (standing : verb.keyword ∈ standard.map Verb.keyword) : verb ∈ standard :=
  own.resolve_right fun other => other standing

namespace State

/-- A robot that is deployed stands in the zone and looks somewhere. Unlike `Sound`, this also holds
where a pit was put under the robot from outside. -/
def Poised (zone : Zone) (st : State) : Prop :=
  st.activated = true → ∃ pose, st.pose? = some pose ∧ zone.Contains pose.cell

theorem poised_of_off {zone : Zone} {st : State} (off : st.activated = false) : Poised zone st :=
  fun on => absurd (off.symm.trans on) Bool.false_ne_true

theorem Poised.isTold {zone : Zone} {st : State} (poised : Poised zone st)
    (narrow : zone.size ≤ 10 ^ Numeral.maxDigits) : st.IsTold := by
  refine isTold_iff.2 fun on => ?_
  obtain ⟨pose, here, inside⟩ := poised on
  obtain ⟨position, heading⟩ := pose?_eq_some.1 here
  refine ⟨by simp [heading], fun cell there => ?_⟩
  obtain rfl := Option.some.inj (position.symm.trans there)
  exact isWritable_of_contains narrow inside

theorem Poised.summary_error {zone : Zone} {st : State} (poised : Poised zone st) {why : Untold}
    (silent : st.summary = .error why) :
    why = .overlong ∧ 10 ^ Numeral.maxDigits < zone.size ∧
      ∃ cell, st.position = some cell ∧ ¬ cell.IsWritable := by
  have wide : 10 ^ Numeral.maxDigits < zone.size := by
    by_contra narrow
    obtain ⟨text, told⟩ := poised.isTold (Nat.le_of_not_lt narrow)
    cases silent.symm.trans told
  unfold summary at silent
  split at silent
  · rename_i on
    obtain ⟨pose, here, -⟩ := poised on
    obtain ⟨position, heading⟩ := pose?_eq_some.1 here
    by_cases short : pose.cell.IsWritable
    · simp [position, heading, cellText, short, bind, Except.bind, pure, Except.pure] at silent
    · simp only [position, heading, cellText, short, if_false, bind, Except.bind] at silent
      exact ⟨(Except.error.inj silent).symm, wide, pose.cell, position, short⟩
  · cases silent

end State

namespace Settings

variable {s : Settings} {st : State} {line : Text} {c : Command} {crash : Crash}

theorem Change.poised {deed : Deed} (change : s.Change st deed) (poised : Poised s.zone st) :
    Poised s.zone deed.state := by
  cases change with
  | none => exact poised
  | @landed cell heading free =>
      exact fun _ => ⟨⟨cell, heading⟩, rfl, (Zone.verdict_eq_free_iff.1 free).2⟩
  | @advanced pose on here free =>
      exact fun _ => ⟨⟨_, pose.heading⟩, pose?_eq_some.2 ⟨rfl, (pose?_eq_some.1 here).2⟩,
        (Zone.verdict_eq_free_iff.1 free).2⟩
  | @turned heading on here turn =>
      obtain ⟨pose, stands, inside⟩ := poised on
      exact fun _ =>
        ⟨⟨pose.cell, turn heading⟩, pose?_eq_some.2 ⟨(pose?_eq_some.1 stands).1, rfl⟩, inside⟩
  | dug on chain apart => exact poised

theorem happen_poised (poised : Poised s.zone st) (e : Event) : Poised s.zone (s.happen st e) := by
  cases e with
  | line text =>
      obtain ⟨isOpen, state⟩ := s.execute_state st text
      have after : Poised s.zone (s.deedOf st text).state :=
        (s.deedOf_change st text).poised poised
      change Poised s.zone (s.execute st text).state
      rw [state]
      exact after
  | reset => exact poised_of_off rfl
  | opening source =>
      change Poised s.zone (s.opening st source)
      unfold opening
      split
      · exact poised
      · exact poised_of_off rfl

theorem replay_poised (poised : Poised s.zone st) (events : List Event) :
    Poised s.zone (s.replay st events) := by
  induction events generalizing st with
  | nil => exact poised
  | cons e rest ih => exact ih (happen_poised poised e)

theorem report_error (poised : Poised s.zone st) (failed : s.report st = .error crash) :
    ∃ flaw, crash = .template flaw := by
  unfold report at failed
  split at failed
  · rename_i on
    obtain ⟨pose, here, -⟩ := poised on
    rw [here] at failed
    dsimp only at failed
    split at failed
    · cases failed
    · exact ⟨_, (Except.error.inj failed).symm⟩
  · cases failed

theorem respond_error (poised : Poised s.zone st)
    (handled : s.overrides.get? c.keyword = none →
      ∀ keyword arguments, c ≠ .custom keyword arguments)
    (failed : (s.respond st c).result = .error crash) :
    c = .report ∧ ∃ flaw, crash = .template flaw := by
  have never {result : Except Crash (Option Text)} (ok : ∃ output, result = .ok output)
      (failed : result = .error crash) : False := by
    obtain ⟨output, rfl⟩ := ok
    cases failed
  unfold respond at failed
  split at failed
  · rename_i heeded
    split at failed
    · cases failed
    · rename_i own
      cases c with
      | deploy cell heading => exact (never (s.land_ok st cell heading) failed).elim
      | pit cell => exact (never (s.dig_ok st cell) failed).elim
      | custom keyword arguments => exact absurd rfl (handled own keyword arguments)
      | report => exact ⟨rfl, report_error poised failed⟩
      | move =>
          obtain ⟨pose, here, -⟩ := poised heeded
          exact (never (s.advance_ok st here) failed).elim
      | left =>
          obtain ⟨pose, here, -⟩ := poised heeded
          exact (never (face_ok st (pose?_eq_some.1 here).2 _) failed).elim
      | right =>
          obtain ⟨pose, here, -⟩ := poised heeded
          exact (never (face_ok st (pose?_eq_some.1 here).2 _) failed).elim
  · cases failed

theorem unhandled_eq_nil_iff :
    s.unhandled = [] ↔ ∀ keyword ∈ s.vocabulary.verbs.keys, s.overrides.get? keyword = none →
      keyword ∈ Verb.standard.map Verb.keyword := by
  have empty (texts : List Text) : Text.sort texts = [] ↔ texts = [] := by
    rw [Text.sort, ← List.length_eq_zero_iff, List.length_mergeSort, List.length_eq_zero_iff]
  rw [unhandled, empty, List.filter_eq_nil_iff]
  simp

/-- None of the lookups fails that a line makes on its way: those of its keyword, of what makes
arguments of its tokens, of what its command does, and of where the robot stands. A line may still
fail in a numeral that is too long, in the template of a report, or in the trace of a position that
is too long. -/
structure Resolves (s : Settings) (st : State) (line : Text) : Prop where
  listed : ∀ keyword, s.vocabulary.recognize? (Phrase.ofLine line).keyword = some keyword →
    ∃ verb, s.vocabulary.verbs.get? keyword = some verb ∧ verb.keyword = keyword ∧
      ∀ slot ∈ verb.shape, slot.Converts
  handled : ∀ c, s.vocabulary.read line = .ok c →
    (∃ answer, s.overrides.get? c.keyword = some answer) ∨
      c.keyword ∈ Verb.standard.map Verb.keyword ∧
        ∀ keyword arguments, c ≠ .custom keyword arguments
  poised : Poised s.zone st
  crashes : ∀ crash, (s.execute st line).result = .error crash →
    crash = .unread .overlong ∧ ¬ (Phrase.ofLine line).IsShort ∨
      (s.vocabulary.read line = .ok .report ∧ ∃ flaw, crash = .template flaw) ∨
      s.traced = true ∧ crash = .untold .overlong ∧ 10 ^ Numeral.maxDigits < s.zone.size ∧
        ∃ cell, (s.execute st line).state.position = some cell ∧ ¬ cell.IsWritable

variable {verbs : List Verb} {ignoreCase : Bool}

theorem resolves (made : s.vocabulary = .ofVerbs verbs ignoreCase)
    (own : ∀ verb ∈ verbs, verb.IsOwn) (checked : s.unhandled = []) (poised : Poised s.zone st)
    (line : Text) : s.Resolves st line := by
  have table {keyword : Text} {verb : Verb} (found : s.vocabulary.verbs.get? keyword = some verb) :
      verb ∈ verbs ∧ verb.keyword = keyword := by
    rw [made] at found
    refine Table.of_get?_ofList (fun w verb => verb ∈ verbs ∧ verb.keyword = w) ?_ found
    intro e member
    obtain ⟨verb, listed, rfl⟩ := List.mem_map.1 member
    exact ⟨listed, rfl⟩
  have handled (c : Command) (read : s.vocabulary.read line = .ok c) :
      (∃ answer, s.overrides.get? c.keyword = some answer) ∨
        c.keyword ∈ Verb.standard.map Verb.keyword ∧
          ∀ keyword arguments, c ≠ .custom keyword arguments := by
    obtain ⟨k, verb, arguments, found, listed, spelled, rfl⟩ := Vocabulary.read_eq_ok_iff.1 read
    obtain ⟨member, rfl⟩ := table listed
    rw [verb.keyword_command]
    cases bare : s.overrides.get? verb.keyword with
    | some answer => exact .inl ⟨answer, rfl⟩
    | none =>
        have standing :=
          unhandled_eq_nil_iff.1 checked _ (List.mem_of_find?_eq_some found) bare
        have verb_standing := (own verb member).mem_standard standing
        exact .inr ⟨standing, verb.command_ne_custom verb_standing spelled⟩
  refine ⟨?listed, handled, poised, ?crashes⟩
  case listed =>
    intro keyword found
    obtain ⟨verb, listed⟩ := Vocabulary.get?_of_recognize? found
    exact ⟨verb, listed, (table listed).2, fun slot _ => slot.converts⟩
  case crashes =>
    intro crash broke
    rcases execute_eq_error_iff.1 broke with failed | ⟨c, output, why, traced, -, -, silent, rfl⟩
    case inr =>
      have after : Poised s.zone (s.execute st line).state := happen_poised poised (.line line)
      obtain ⟨rfl, overlong⟩ := after.summary_error silent
      exact .inr (.inr ⟨traced, rfl, overlong⟩)
    rw [deedOf] at failed
    cases read : s.vocabulary.read line with
    | error refusal =>
        rw [read] at failed
        cases refusal with
        | fault f => cases failed
        | mishap m =>
            obtain ⟨rfl, k, verb, -, -, -, long⟩ := Vocabulary.read_mishap_iff.1 read
            obtain ⟨a, member, numeral, long⟩ := Slot.exists_of_overlong long
            exact .inl ⟨(Except.error.inj failed).symm, fun short => long (short a member numeral)⟩
    | ok c =>
        rw [read] at failed
        have known : s.overrides.get? c.keyword = none →
            ∀ keyword arguments, c ≠ .custom keyword arguments := fun bare => by
          rcases handled c read with ⟨answer, found⟩ | ⟨-, standing⟩
          · rw [bare] at found
            cases found
          · exact standing
        have poised : Poised s.zone (numbered st) := poised
        obtain ⟨rfl, flaw⟩ := respond_error poised known failed
        exact .inr (.inl ⟨rfl, flaw⟩)

end Settings

namespace Fleet

structure Fit (v : Vehicle) : Prop where
  handled : v.settings.unhandled = []
  poised : Poised v.settings.zone v.state

variable {f : Fleet} {i : Nat} {v : Vehicle}

theorem setState_fit (fit : ∀ v ∈ f.vehicles, Fit v) (hv : f.vehicles[i]? = some v) {st : State}
    (poised : Poised v.settings.zone st) : ∀ w ∈ (f.setState i st).vehicles, Fit w := by
  intro w member
  obtain ⟨j, at_j⟩ := List.mem_iff_getElem?.1 member
  rw [setState_vehicles] at at_j
  split at at_j
  · rename_i same
    subst same
    rw [hv] at at_j
    obtain rfl := Option.some.inj at_j
    exact ⟨(fit v (List.mem_of_getElem? hv)).handled, poised⟩
  · exact fit w (List.mem_of_getElem? at_j)

theorem make_fit (fit : ∀ v ∈ f.vehicles, Fit v) (p : Plan) :
    ∀ v ∈ (f.make p).1.vehicles, Fit v := by
  unfold make
  split
  · exact fit
  · split
    · exact fit
    · rename_i settings checked
      intro v member
      rcases List.mem_append.1 member with old | new
      · exact fit v old
      · obtain rfl := List.mem_singleton.1 new
        obtain ⟨handled, rfl⟩ := Settings.of_checked_eq_ok checked
        exact ⟨handled, poised_of_off rfl⟩

theorem carryOut_fit (fit : ∀ v ∈ f.vehicles, Fit v) (hv : f.vehicles[i]? = some v)
    (errand : Errand) : ∀ w ∈ (f.carryOut i v errand).1.vehicles, Fit w := by
  have poised := (fit v (List.mem_of_getElem? hv)).poised
  have replayed (events : List Event) :
      Poised v.settings.zone (v.settings.replay v.state events) :=
    Settings.replay_poised poised events
  cases errand with
  | execute line =>
      have after : Poised v.settings.zone (v.settings.execute v.state line).state :=
        replayed [.line line]
      simp only [carryOut]
      exact setState_fit fit hv after
  | executeAll lines =>
      have after : Poised v.settings.zone (v.settings.executeAll v.state lines).1 := by
        rw [Settings.executeAll_state]
        exact replayed _
      simp only [carryOut]
      exact setState_fit fit hv after
  | process stream =>
      have after :
          Poised v.settings.zone (v.settings.process f.coloured v.state stream).state := by
        rw [Settings.process, Feed.run_state]
        exact replayed _
      simp only [carryOut]
      exact setState_fit fit hv after
  | start stream => exact fit
  | report => exact fit
  | reset => exact setState_fit fit hv (poised_of_off rfl)
  | dig cell => exact setState_fit fit hv poised

theorem serve_fit (fit : ∀ v ∈ f.vehicles, Fit v) (r : Request) :
    ∀ v ∈ (f.serve r).1.vehicles, Fit v := by
  cases r with
  | make plan => exact make_fit fit plan
  | colour on => exact fit
  | send j errand =>
      simp only [serve]
      split
      · rename_i w at_j
        exact carryOut_fit fit at_j errand
      · exact fit
  | next k quota =>
      simp only [serve]
      split
      · exact fit
      · rename_i run _
        split
        · rename_i w at_run
          have after : Poised w.settings.zone
              (run.feed.resume w.settings f.coloured quota w.state).1.state := by
            rw [Feed.resume_state]
            exact Settings.replay_poised (fit w (List.mem_of_getElem? at_run)).poised _
          exact setState_fit fit at_run after
        · exact fit
  | close k =>
      simp only [serve]
      split <;> exact fit

theorem serveAll_fit (fit : ∀ v ∈ f.vehicles, Fit v) (requests : List Request) :
    ∀ v ∈ (f.serveAll requests).vehicles, Fit v := by
  induction requests generalizing f with
  | nil => exact fit
  | cons r rest ih => exact ih (serve_fit fit r)

theorem zone_eq_ok_iff (size : Size) :
    (∃ zone, size.zone = .ok zone) ↔ ∃ n ≥ 1, size = .whole n := by
  cases size with
  | other shown => simp [Size.zone]
  | whole n =>
      simp only [Size.zone, Zone.ofSize?, Size.whole.injEq]
      by_cases positive : 0 < n.toNat
      · simp only [positive, dite_true]
        exact ⟨fun _ => ⟨n, by omega, rfl⟩, fun _ => ⟨_, rfl⟩⟩
      · simp only [positive, dite_false]
        constructor
        · rintro ⟨zone, impossible⟩
          cases impossible
        · rintro ⟨m, large, rfl⟩
          omega

theorem zone_of_positive {n : Nat} (positive : 0 < n) :
    (Size.whole n).zone = .ok ⟨n, positive⟩ := by
  simp [Size.zone, Zone.ofSize?, positive]

theorem refusal_of_zone_eq_error {size : Size} {e : SetupError} (refused : size.zone = .error e) :
    e = size.refusal := by
  cases size with
  | other shown => exact (Except.error.inj refused).symm
  | whole n =>
      simp only [Size.zone] at refused
      split at refused
      · cases refused
      · exact (Except.error.inj refused).symm

theorem message?_refusal (size : Size) :
    (size.refusal = .unshown ↔ size.shown? = none) ∧
      ((∃ message, size.refusal.message? = some message) ↔ size.shown? ≠ none) := by
  unfold Size.refusal
  cases size.shown? <;> simp [SetupError.message?]

theorem make_refused_iff (f : Fleet) (p : Plan) :
    let misfit := ∀ n ≥ 1, p.size ≠ .whole n
    let loose := ∃ keyword ∈ p.vocabulary.verbs.keys,
      p.overrides.get? keyword = none ∧ keyword ∉ Verb.standard.map Verb.keyword
    ((∃ e message, (f.make p).2 = .refused e ∧ e.message? = some message) ↔
      (misfit ∨ loose) ∧ ¬ (misfit ∧ p.size.shown? = none)) ∧
    ((f.make p).2 = .refused .unshown ↔ misfit ∧ p.size.shown? = none) := by
  intro misfit loose
  have fits := zone_eq_ok_iff p.size
  unfold make
  cases size : p.size.zone with
  | error e =>
      have bad : misfit := by
        intro n large same
        obtain ⟨zone, ok⟩ := fits.2 ⟨n, large, same⟩
        rw [size] at ok
        cases ok
      obtain rfl := refusal_of_zone_eq_error size
      obtain ⟨unshown, told⟩ := message?_refusal p.size
      simpa [bad, Answer.refused.injEq] using ⟨told, unshown⟩
  | ok zone =>
      obtain ⟨n, large, same⟩ := fits.1 ⟨zone, size⟩
      have good : ¬ misfit := fun bad => bad n large same
      have handled := Settings.unhandled_eq_nil_iff (s := p.settings zone)
      dsimp only
      unfold Settings.checked
      by_cases none_left : (p.settings zone).unhandled = []
      · have tight : ¬ loose := by
          rintro ⟨keyword, listed, bare, unknown⟩
          exact unknown (handled.1 none_left keyword listed bare)
        simp [none_left, good, tight]
      · have left : loose := by
          rw [handled] at none_left
          push Not at none_left
          exact none_left
        simp [none_left, good, left, SetupError.message?]

/-- Whatever was asked before, and whatever the vocabulary and the overrides of a vehicle that could
be made, the lookups that its lines make succeed; and a wish is refused with a message just if its
size is not positive or one of its keywords has no handler, unless that size cannot be shown. -/
theorem lookups_resolve (requests : List Request) :
    let f := Fleet.empty.serveAll requests
    (∀ i v verbs ignoreCase, f.vehicles[i]? = some v →
      v.settings.vocabulary = .ofVerbs verbs ignoreCase → (∀ verb ∈ verbs, verb.IsOwn) →
        (∀ crash, v.settings.report v.state = .error crash → ∃ flaw, crash = .template flaw) ∧
        ∀ r before line after, f.events i v r = before ++ .line line :: after →
          v.settings.Resolves (v.settings.replay v.state before) line) ∧
    (∀ h : Heading, ∃ n, Heading.all.idxOf? h = some n ∧
      Heading.all[(n + 1) % Heading.all.length]? = some h.right ∧
      Heading.all[(n + (Heading.all.length - 1)) % Heading.all.length]? = some h.left) ∧
    ∀ p, let misfit := ∀ n ≥ 1, p.size ≠ .whole n
      let loose := ∃ keyword ∈ p.vocabulary.verbs.keys,
        p.overrides.get? keyword = none ∧ keyword ∉ Verb.standard.map Verb.keyword
      let answer := (f.serve (.make p)).2.answer
      ((∃ e message, answer = .refused e ∧ e.message? = some message) ↔
        (misfit ∨ loose) ∧ ¬ (misfit ∧ p.size.shown? = none)) ∧
      (answer = .refused .unshown ↔ misfit ∧ p.size.shown? = none) := by
  intro f
  refine ⟨fun i v verbs ignoreCase hv made own => ?_, Heading.idxOf?_all, fun p => ?_⟩
  · have none_yet : ∀ v ∈ Fleet.empty.vehicles, Fit v := fun v member =>
      absurd member List.not_mem_nil
    have fit : Fit v := serveAll_fit none_yet requests v (List.mem_of_getElem? hv)
    refine ⟨fun crash => Settings.report_error fit.poised, fun r before line after _ => ?_⟩
    exact Settings.resolves made own fit.handled (Settings.replay_poised fit.poised before) line
  · have made := make_refused_iff f p
    simp only [serve]
    exact made

/-- A wish for a negative size that is too long to be shown is refused without a message. -/
theorem make_unshown :
    ∃ (n : Nat) (p : Plan), n = 10 ^ Numeral.maxDigits ∧ p.size = .whole (-n) ∧
      (∀ m ≥ 1, p.size ≠ .whole m) ∧
      (empty.serve (.make p)).2.answer = .refused .unshown ∧
      SetupError.unshown.message? = none := by
  obtain ⟨n, most⟩ : ∃ n, n = 10 ^ Numeral.maxDigits := ⟨_, rfl⟩
  let p : Plan := ⟨.whole (-n), Wording.standard, Vocabulary.standard, Table.empty, .utf8, false,
    false, false⟩
  have misfit : ∀ m ≥ 1, p.size ≠ .whole m := by
    intro m large same
    have negative : -(n : Int) = m := Size.whole.inj same
    omega
  have unshown : p.size.shown? = none := by
    apply if_neg
    rw [Numeral.writable_iff, Int.natAbs_neg, Int.natAbs_natCast, most]
    exact Nat.lt_irrefl _
  exact ⟨n, p, most, rfl, misfit, (make_refused_iff empty p).2.2 ⟨misfit, unshown⟩, rfl⟩

theorem lookups_resolve_hop :
    ∃ (plan : Plan) (f : Fleet) (v : Vehicle) (verbs : List Verb),
      verbs = [.report, .deploy, .left, .custom "HOP".toList [.heading, .number]] ∧
      plan = ⟨.whole 3, Wording.standard, .ofVerbs verbs true,
        .ofList [("HOP".toList, some "hopped".toList)], .utf8, false, false, false⟩ ∧
      f = Fleet.empty.serveAll
        [.make plan, .send 0 (.execute "deploy 1,1,EAST".toList), .send 0 (.dig ⟨1, 1⟩)] ∧
      f.vehicles[0]? = some v ∧ v.state.activated = true ∧ (∀ verb ∈ verbs, verb.IsOwn) ∧
      v.settings.Resolves v.state "hop WEST,-007".toList ∧
      v.settings.vocabulary.read "hop WEST,-007".toList =
        .ok (.custom "HOP".toList [.heading .west, .number (-7)]) ∧
      (v.settings.execute v.state "hop WEST,-007".toList).result = .ok (some "hopped".toList) ∧
      ∃ e message, (f.serve (.make { plan with overrides := Table.empty })).2.answer = .refused e ∧
        e.message? = some message := by
  let verbs : List Verb := [.report, .deploy, .left, .custom "HOP".toList [.heading, .number]]
  let plan : Plan := ⟨.whole 3, Wording.standard, .ofVerbs verbs true,
    .ofList [("HOP".toList, some "hopped".toList)], .utf8, false, false, false⟩
  let requests : List Request :=
    [.make plan, .send 0 (.execute "deploy 1,1,EAST".toList), .send 0 (.dig ⟨1, 1⟩)]
  let v : Vehicle :=
    ⟨plan.settings ⟨3, by decide⟩,
      ⟨true, some ⟨1, 1⟩, some .east, Pits.empty.insert ⟨1, 1⟩, true, 1, none⟩⟩
  have hv : (Fleet.empty.serveAll requests).vehicles[0]? = some v := by
    with_unfolding_all rfl
  have own : ∀ verb ∈ verbs, verb.IsOwn := by decide +kernel
  obtain ⟨resolves, -, refused⟩ := lookups_resolve requests
  have found := (resolves 0 v verbs true hv rfl own).2
    (.send 0 (.execute "hop WEST,-007".toList)) [] _ [] rfl
  have unhandled := (refused { plan with overrides := Table.empty }).1.2
    ⟨.inr ⟨"HOP".toList, by decide +kernel, rfl, by decide +kernel⟩, by simp [plan, Size.shown?]⟩
  exact ⟨plan, _, v, verbs, rfl, rfl, rfl, hv, rfl, own, found, by decide +kernel,
    by decide +kernel, unhandled⟩

end Fleet

end Rover
