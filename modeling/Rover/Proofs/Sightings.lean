import Mathlib.Data.List.ReduceOption
import Rover.Proofs.Interleaving
import Rover.Proofs.Mistakes

namespace Rover

/-- What a rover makes of an item, and the place that it tells of: a malformed line that it passes
over, a command that it heeds, or why there was no line to read. -/
inductive Sighting where
  | skipped (fault : Fault) (place : Place)
  | heeded (c : Command) (place : Place)
  | unread (cause : Text) (place : Place)
  deriving DecidableEq, Repr

namespace Sighting

def place : Sighting → Place
  | .skipped _ p => p
  | .heeded _ p => p
  | .unread _ p => p

def IsOfLine : Sighting → Prop
  | .unread _ _ => False
  | _ => True

def notice? : Sighting → Option Text
  | .skipped f ⟨some n, some content, _⟩ => some (Mistake.mk n.toNat content f).notice
  | _ => none

end Sighting

/-- The items of a source have the places that follow the first `n` lines of `source`. -/
def PlacedFrom (n : Nat) (source : Option Text) (seen : List (Option Sighting)) : Prop :=
  ∀ j z, seen[j]? = some (some z) →
    z.place.line = some ((n + j + 1 : Nat) : Int) ∧ z.place.source = source

theorem placedFrom_nil (n : Nat) (source : Option Text) : PlacedFrom n source [] := by
  intro j z found
  cases found

theorem placedFrom_cons {n : Nat} {source : Option Text} {z? : Option Sighting}
    {rest : List (Option Sighting)} :
    PlacedFrom n source (z? :: rest) ↔
      (∀ z, z? = some z → z.place.line = some ((n + 1 : Nat) : Int) ∧ z.place.source = source) ∧
        PlacedFrom (n + 1) source rest := by
  constructor
  · intro placed
    refine ⟨fun z found => placed 0 z (congrArg some found), fun j z found => ?_⟩
    have later := placed (j + 1) z found
    rwa [Nat.add_right_comm n 1 j]
  · rintro ⟨first, later⟩ j z found
    cases j with
    | zero => exact first z (Option.some.inj found)
    | succ j =>
        have placed := later j z found
        rwa [Nat.add_right_comm n 1 j] at placed

theorem PlacedFrom.unique {n n' : Nat} {source source' : Option Text}
    {seen : List (Option Sighting)} (placed : PlacedFrom n source seen)
    (placed' : PlacedFrom n' source' seen) :
    seen.reduceOption = [] ∨ n = n' ∧ source = source' := by
  cases found : seen.reduceOption with
  | nil => exact .inl rfl
  | cons z others =>
      have member : some z ∈ seen := List.reduceOption_mem_iff.1 (by rw [found]; simp)
      obtain ⟨j, at_j⟩ := List.mem_iff_getElem?.1 member
      obtain ⟨line, name⟩ := placed j z at_j
      obtain ⟨line', name'⟩ := placed' j z at_j
      have same := Option.some.inj (line.symm.trans line')
      exact .inr ⟨by omega, name.symm.trans name'⟩

theorem placedFrom_of_reduceOption_eq_nil {n : Nat} {source : Option Text}
    {seen : List (Option Sighting)} (nothing : seen.reduceOption = []) :
    PlacedFrom n source seen := by
  intro j z found
  have member := List.reduceOption_mem_iff.2 (List.mem_of_getElem? found)
  rw [nothing] at member
  cases member

namespace Settings

variable (s : Settings)

def sighting? (st : State) (item : Item) : Option Sighting :=
  match s.lineOf item with
  | .error cause? =>
      cause?.map fun cause => .unread cause ⟨some (st.lineNumber + 1), none, st.source⟩
  | .ok line =>
      match s.vocabulary.read line with
      | .error (.fault f) => some (.skipped f (placeOf (numbered st) line))
      | .error (.mishap _) => none
      | .ok c => if heeds st c then some (.heeded c (placeOf (numbered st) line)) else none

def sightings : State → List Item → List (Option Sighting)
  | _, [] => []
  | st, item :: rest =>
      s.sighting? st item ::
        match s.lineOf item with
        | .ok line => sightings (s.execute st line).state rest
        | .error _ => []

variable {s} {st : State} {item : Item}

theorem sightings_cons_ok {line : Text} (holds : s.lineOf item = .ok line) (rest : List Item) :
    s.sightings st (item :: rest) =
      s.sighting? st item :: s.sightings (s.execute st line).state rest := by
  rw [sightings, holds]

theorem sightings_cons_error {cause? : Option Text} (bad : s.lineOf item = .error cause?)
    (rest : List Item) :
    s.sightings st (item :: rest) =
      [cause?.map fun cause => .unread cause ⟨some (st.lineNumber + 1), none, st.source⟩] := by
  rw [sightings, sighting?, bad]

theorem sighting?_place {z : Sighting} (seen : s.sighting? st item = some z) :
    z.place.line = some ((st.lineNumber + 1 : Nat) : Int) ∧ z.place.source = st.source := by
  unfold sighting? at seen
  split at seen
  · obtain ⟨cause, -, rfl⟩ := Option.map_eq_some_iff.1 seen
    exact ⟨rfl, rfl⟩
  · split at seen
    · obtain rfl := Option.some.inj seen
      exact ⟨rfl, rfl⟩
    · cases seen
    · split at seen
      · obtain rfl := Option.some.inj seen
        exact ⟨rfl, rfl⟩
      · cases seen

theorem sightings_placed (st : State) (items : List Item) :
    PlacedFrom st.lineNumber st.source (s.sightings st items) := by
  induction items generalizing st with
  | nil => exact placedFrom_nil _ _
  | cons item rest ih =>
      refine placedFrom_cons.2 ⟨fun z seen => sighting?_place seen, ?_⟩
      cases holds : s.lineOf item with
      | error cause? => exact placedFrom_nil _ _
      | ok line =>
          have later := ih (s.execute st line).state
          rwa [execute_lineNumber, execute_source] at later

theorem isOfLine_of_sighting? {line : Text} (holds : s.lineOf item = .ok line) {z : Sighting}
    (seen : s.sighting? st item = some z) : z.IsOfLine ∧ z.place = placeOf (numbered st) line := by
  simp only [sighting?, holds] at seen
  split at seen
  · obtain rfl := Option.some.inj seen
    exact ⟨trivial, rfl⟩
  · cases seen
  · split at seen
    · obtain rfl := Option.some.inj seen
      exact ⟨trivial, rfl⟩
    · cases seen

theorem execute_warnings_seen {line : Text} (holds : s.lineOf item = .ok line) :
    (s.execute st line).warnings = ((s.sighting? st item).bind Sighting.notice?).toList := by
  rw [execute_warnings]
  unfold Vocabulary.mistake? sighting?
  rw [holds]
  dsimp only
  split
  · rename_i f refused
    rw [refused]
    rfl
  · rename_i other
    cases read : s.vocabulary.read line with
    | error refusal =>
        cases refusal with
        | mishap m => rfl
        | fault f => exact absurd read (other f)
    | ok c =>
        dsimp only
        split <;> rfl

theorem execute_traces_place (traced : s.traced = true) (line : Text) :
    .trace (Styled.entry .header "Line".toList (placeOf (numbered st) line).styled 0 true) ∈
      (s.execute st line).entries := by
  have trace : (s.execute st line).trace =
      Styled.entry .header "Line".toList (placeOf (numbered st) line).styled 0 true :: _ :=
    if_pos traced
  rw [Turn.entries, trace]
  simp

end Settings

structure Stretch.Tells (x : Stretch) (s : Settings) (coloured : Bool)
    (seen : List (Option Sighting)) : Prop where
  warnings : x.log.filterMap Entry.warning? = seen.reduceOption.filterMap Sighting.notice?
  unread : ∀ d, x.ending = .stopped (.unreadable d) ↔
    ∃ cause place, some (.unread cause place) ∈ seen ∧
      d = ⟨some place, .unreadable cause, coloured⟩
  traced : s.traced = true → ∀ z, some z ∈ seen → z.IsOfLine →
    .trace (Styled.entry .header "Line".toList z.place.styled 0 true) ∈ x.log

namespace Settings

variable {s : Settings} {coloured : Bool} {st : State} {item : Item}

theorem warnings_line {line : Text} (outputs : List Text) :
    ((s.execute st line).entries ++ outputs.map Entry.output).filterMap Entry.warning? =
      (s.execute st line).warnings := by
  have silent : (Entry.warning? ∘ Entry.output : Text → Option Text) = fun _ => none := rfl
  rw [List.filterMap_append, Turn.warnings_entries, List.filterMap_map, silent,
    List.filterMap_none, List.append_nil]

theorem unread_ne_sighting? {line : Text} (holds : s.lineOf item = .ok line) (cause : Text)
    (place : Place) : s.sighting? st item ≠ some (.unread cause place) := fun seen =>
  (isOfLine_of_sighting? holds seen).1

theorem tells_line (st : State) {line : Text} (holds : s.lineOf item = .ok line)
    (outputs : List Text) {x : Stretch} {seen : List (Option Sighting)}
    (tells : x.Tells s coloured seen) :
    (x.preceded ((s.execute st line).entries ++ outputs.map Entry.output)).Tells s coloured
      (s.sighting? st item :: seen) where
  warnings := by
    rw [Stretch.preceded, List.filterMap_append, warnings_line, tells.warnings,
      execute_warnings_seen holds]
    cases s.sighting? st item with
    | none => rfl
    | some z =>
        rw [List.reduceOption_cons_of_some, List.filterMap_cons, Option.bind_some]
        cases z.notice? <;> rfl
  unread d := by
    simp only [List.mem_cons, (unread_ne_sighting? holds _ _).symm, false_or]
    exact tells.unread d
  traced traced z member ofLine := by
    rcases List.mem_cons.1 member with first | later
    · rw [(isOfLine_of_sighting? holds first.symm).2]
      exact List.mem_append_left _ (List.mem_append_left _ (execute_traces_place traced line))
    · exact List.mem_append_right _ (tells.traced traced z later ofLine)

theorem tells_nothing {x : Stretch} (silent : x.log.filterMap Entry.warning? = [])
    (readable : ∀ d, x.ending ≠ .stopped (.unreadable d)) : x.Tells s coloured [] where
  warnings := silent
  unread d := by simp [readable d]
  traced _ _ member := absurd member List.not_mem_nil

theorem advanceBy_tells (coloured : Bool) (quota : Nat) (st : State) (items : List Item) :
    (s.advanceBy coloured quota st items).Tells s coloured
      (s.sightings st (items.take (s.advanceBy coloured quota st items).taken)) := by
  fun_induction advanceBy s coloured quota st items with
  | case1 st items => exact tells_nothing rfl (by simp)
  | case2 quota st => exact tells_nothing (s.announce_silent _).1 (by simp)
  | case3 quota st item rest cause bad =>
      rw [List.take_succ_cons, List.take_zero, sightings_cons_error bad]
      exact {
        warnings := rfl
        unread := fun d => by simp [unreadable, eq_comm]
        traced := fun _ z member ofLine => by
          obtain rfl := Option.some.inj (List.mem_singleton.1 member)
          exact ofLine.elim }
  | case4 quota st item rest bad =>
      rw [List.take_succ_cons, List.take_zero, sightings_cons_error bad]
      exact {
        warnings := rfl
        unread := fun d => by simp
        traced := fun _ z member => by simp at member }
  | case5 quota st item rest line holds turn c failed =>
      rw [List.take_succ_cons, List.take_zero, sightings_cons_ok holds]
      have stopped : Stretch.Tells ⟨turn.state, [], rest, 0, .stopped (.crash c)⟩ s coloured [] :=
        tells_nothing rfl (by simp)
      have tells := tells_line st holds [] stopped
      rw [List.map_nil, List.append_nil, Stretch.preceded, List.append_nil] at tells
      exact tells
  | case6 quota st item rest line holds turn ok ih =>
      have tells := tells_line st holds [] ih
      rw [Stretch.preceded, List.take_succ_cons, sightings_cons_ok holds]
      rwa [List.map_nil, List.append_nil] at tells
  | case7 quota st item rest line holds turn output ok ih =>
      rw [Stretch.preceded, List.take_succ_cons, sightings_cons_ok holds]
      exact tells_line st holds [output] ih

end Settings

namespace Event

def counted : Nat → List Event → Nat
  | n, [] => n
  | n, .line _ :: rest => counted (n + 1) rest
  | _, _ :: rest => counted 0 rest

def named : Option Text → List Event → Option Text
  | source, [] => source
  | _, .opening source :: rest => named source rest
  | source, _ :: rest => named source rest

theorem counted_append (n : Nat) (before after : List Event) :
    counted n (before ++ after) = counted (counted n before) after := by
  induction before generalizing n with
  | nil => rfl
  | cons e before ih => cases e <;> exact ih _

theorem named_append (source : Option Text) (before after : List Event) :
    named source (before ++ after) = named (named source before) after := by
  induction before generalizing source with
  | nil => rfl
  | cons e before ih => cases e <;> exact ih _

theorem counted_lines (n : Nat) (lines : List Text) :
    counted n (lines.map .line) = n + lines.length := by
  induction lines generalizing n with
  | nil => rfl
  | cons line rest ih => rw [List.map_cons, counted, ih, List.length_cons]; omega

theorem named_lines (source : Option Text) (lines : List Text) :
    named source (lines.map .line) = source := by
  induction lines with
  | nil => rfl
  | cons line rest ih => exact ih

end Event

namespace Settings

variable {s : Settings}

theorem replay_label (s : Settings) (st : State) (events : List Event) :
    (s.replay st events).lineNumber = Event.counted st.lineNumber events ∧
      (s.replay st events).source = Event.named st.source events := by
  induction events generalizing st with
  | nil => exact ⟨rfl, rfl⟩
  | cons e rest ih =>
      obtain ⟨number, source⟩ := ih (s.happen st e)
      rw [replay_cons, number, source]
      cases e with
      | line text =>
          rw [happen, execute_lineNumber, execute_source]
          exact ⟨rfl, rfl⟩
      | reset => exact ⟨rfl, rfl⟩
      | opening name => exact ⟨rfl, rfl⟩

theorem length_linesOf_of_paused {coloured : Bool} {quota : Nat} {st : State} {items : List Item}
    (paused : (s.advanceBy coloured quota st items).ending = .paused) :
    (s.linesOf (items.take (s.advanceBy coloured quota st items).taken)).length =
      (s.advanceBy coloured quota st items).taken := by
  fun_induction advanceBy s coloured quota st items with
  | case1 => rfl
  | case2 => rfl
  | case3 => cases paused
  | case4 => cases paused
  | case5 => cases paused
  | case6 quota st item rest line holds turn ok ih =>
      rw [Stretch.preceded, List.take_succ_cons, s.linesOf_cons_ok holds]
      exact congrArg (· + 1) (ih paused)
  | case7 quota st item rest line holds turn output ok ih =>
      rw [Stretch.preceded, List.take_succ_cons, s.linesOf_cons_ok holds]
      exact congrArg (· + 1) (ih paused)

end Settings

namespace Feed

variable {s : Settings} {coloured : Bool} {quota : Nat} {st : State} {feed : Feed}

def begun (s : Settings) (st : State) (feed : Feed) : State :=
  match feed.opens? with
  | some source => s.opening st source
  | none => st

def sightings (s : Settings) (coloured : Bool) (quota : Nat) (st : State) (feed : Feed) :
    List (Option Sighting) :=
  s.sightings (feed.begun s st) ((feed.items s).take (feed.run s coloured quota st).taken)

theorem sightings_placed (s : Settings) (coloured : Bool) (quota : Nat) (st : State) (feed : Feed) :
    PlacedFrom (feed.begun s st).lineNumber (feed.begun s st).source
      (feed.sightings s coloured quota st) :=
  s.sightings_placed _ _

theorem begin_tells {items : List Item} {source : Option Text} {seen : List (Option Sighting)}
    (tells : (s.advanceBy coloured quota (s.opening st source) items).Tells s coloured seen) :
    (Feed.begin s coloured quota st items source).Tells s coloured seen where
  warnings := by
    rw [Feed.begin, List.filterMap_append, (s.announce_silent _).1]
    exact tells.warnings
  unread := tells.unread
  traced traced z member ofLine :=
    List.mem_append_right _ (tells.traced traced z member ofLine)

end Feed

namespace Run

inductive Reads (s : Settings) (i : Nat) (stream : Stream) : Run → Prop
  | waiting : Reads s i stream ⟨i, .waiting stream, 0⟩
  | running (taken : Nat) :
      Reads s i stream ⟨i, .running (((Feed.waiting stream).items s).drop taken), taken⟩
  | spent (taken : Nat) : Reads s i stream ⟨i, .spent, taken⟩

/-- A run that is under way finds the vehicle at the number and the name that it left there. -/
def InStep (run : Run) (source : Option Text) (st : State) : Prop :=
  ∀ rest, run.feed = .running rest → st.lineNumber = run.taken ∧ st.source = source

variable {s : Settings} {i : Nat} {stream : Stream} {source : Option Text} {run : Run}
  {st : State}

theorem Reads.vehicle (reads : run.Reads s i stream) : run.vehicle = i := by
  cases reads <;> rfl

def resumed (run : Run) (s : Settings) (coloured : Bool) (quota : Nat) (st : State) : Run :=
  { run with
    feed := (run.feed.resume s coloured quota st).2
    taken := run.taken + (run.feed.resume s coloured quota st).1.taken }

theorem Reads.resumed (reads : run.Reads s i stream) (coloured : Bool) (quota : Nat) (st : State) :
    (run.resumed s coloured quota st).Reads s i stream := by
  by_cases asked : quota = 0
  · subst asked
    exact reads
  · rw [Run.resumed, Feed.resume_of_ne_zero s coloured st run.feed asked]
    obtain ⟨-, rest⟩ := Feed.run_rest s coloured quota st run.feed
    unfold Feed.after
    split
    · rename_i paused
      rw [rest]
      cases reads with
      | waiting =>
          dsimp only
          rw [Nat.zero_add]
          exact .running _
      | running taken =>
          dsimp only [Feed.items]
          rw [List.drop_drop]
          exact .running _
      | spent taken => cases paused
    · rw [reads.vehicle]
      exact .spent _

theorem Reads.tells (reads : run.Reads s i stream)
    (opens : (Feed.waiting stream).opens? = some source) (coloured : Bool) (quota : Nat)
    (st : State) :
    (run.feed.run s coloured quota st).Tells s coloured
      (run.feed.sightings s coloured quota st) := by
  unfold Feed.sightings Feed.begun
  cases reads with
  | waiting =>
      dsimp only
      rw [opens, Feed.run_of_opens? s coloured quota st opens]
      exact Feed.begin_tells (Settings.advanceBy_tells coloured quota _ _)
  | running taken => exact Settings.advanceBy_tells coloured quota st _
  | spent taken => exact Settings.tells_nothing rfl (by simp [Feed.run])

theorem Reads.inStep_resumed (reads : run.Reads s i stream)
    (opens : (Feed.waiting stream).opens? = some source) (inStep : run.InStep source st)
    (coloured : Bool) (quota : Nat) :
    (run.resumed s coloured quota st).InStep source
      (run.feed.resume s coloured quota st).1.state := by
  by_cases asked : quota = 0
  · subst asked
    exact inStep
  · intro rest running
    rw [Run.resumed, Feed.resume_of_ne_zero s coloured st run.feed asked] at running ⊢
    have paused : (run.feed.run s coloured quota st).ending = .paused := by
      by_contra ended
      unfold Feed.after at running
      split at running
      · exact ended ‹_›
      · cases running
    obtain ⟨number, name⟩ := s.replay_label st (run.feed.events s coloured quota st)
    rw [← Feed.run_state] at number name
    rw [number, name, Feed.events, Event.counted_append, Event.named_append, Event.counted_lines,
      Event.named_lines]
    cases reads with
    | waiting =>
        have begun := Feed.run_of_opens? s coloured quota st opens
        rw [begun] at paused
        dsimp only
        rw [opens, begun, Nat.zero_add]
        refine ⟨?_, rfl⟩
        exact (Nat.zero_add _).trans (Settings.length_linesOf_of_paused paused)
    | running taken =>
        obtain ⟨onward, name⟩ := inStep _ rfl
        refine ⟨?_, name⟩
        exact congrArg₂ (· + ·) onward (Settings.length_linesOf_of_paused paused)
    | spent taken => cases paused

theorem Reads.placed_iff (reads : run.Reads s i stream)
    (opens : (Feed.waiting stream).opens? = some source) (coloured : Bool) (quota : Nat)
    (st : State) :
    PlacedFrom run.taken source (run.feed.sightings s coloured quota st) ↔
      (run.feed.sightings s coloured quota st).reduceOption = [] ∨ run.InStep source st := by
  have placed := run.feed.sightings_placed s coloured quota st
  constructor
  · intro own
    refine (own.unique placed).imp id fun ⟨number, name⟩ rest running => ?_
    rw [Feed.begun, running] at number name
    exact ⟨number.symm, name.symm⟩
  · rintro (nothing | inStep)
    · exact placedFrom_of_reduceOption_eq_nil nothing
    · cases reads with
      | waiting =>
          have begun : (Feed.waiting stream).begun s st = s.opening st source := by
            rw [Feed.begun, opens]
          rwa [begun] at placed
      | running taken =>
          obtain ⟨number, name⟩ := inStep _ rfl
          rw [← number, ← name]
          exact placed
      | spent taken => exact placedFrom_nil _ _

end Run

def Answer.ended? : Answer → Option (Ending × Nat)
  | .stretch x taken => some (x.ending, taken)
  | _ => none

namespace Fleet

def happenings (f : Fleet) (i : Nat) (r : Request) : List Event :=
  match f.vehicles[i]? with
  | some v => f.events i v r
  | none => []

def chronicle (i : Nat) : Fleet → List Request → List Event
  | _, [] => []
  | f, r :: rest => f.happenings i r ++ chronicle i (f.serve r).1 rest

def Alone (i k : Nat) : Fleet → List Request → Prop
  | _, [] => True
  | f, r :: rest => (r.run? = some k ∨ f.happenings i r = []) ∧ Alone i k (f.serve r).1 rest

variable {f : Fleet} {i k : Nat} {v : Vehicle} {run : Run} {stream : Stream}
  {source : Option Text}

theorem happenings_eq (hv : f.vehicles[i]? = some v) (r : Request) :
    f.happenings i r = f.events i v r := by
  simp only [happenings, hv]

theorem serve_resumed (hv : f.vehicles[i]? = some v) (hk : f.runs[k]? = some run)
    (same : run.vehicle = i) (quota : Nat) :
    (f.serve (.next k quota)).1.runs[k]? =
        some (run.resumed v.settings f.coloured quota v.state) ∧
      v.settings.replay v.state (f.happenings i (.next k quota)) =
        (run.feed.resume v.settings f.coloured quota v.state).1.state := by
  refine ⟨serve_next_runs hk (same ▸ hv) quota, ?_⟩
  rw [happenings_eq hv, events, hk, Feed.resume_state]
  by_cases asked : quota = 0 <;> simp [same, asked]

theorem serve_next_reply (hv : f.vehicles[i]? = some v) (hk : f.runs[k]? = some run)
    (same : run.vehicle = i) {quota : Nat} (asked : quota ≠ 0) :
    let x := run.feed.run v.settings f.coloured quota v.state
    (f.serve (.next k quota)).2 = ⟨.stretch x (run.taken + x.taken), x.log⟩ := by
  subst same
  rw [serve_next hk hv, next, Feed.resume_of_ne_zero _ _ _ _ asked]

theorem serve_reads (hv : f.vehicles[i]? = some v) (hk : f.runs[k]? = some run)
    (reads : run.Reads v.settings i stream) (opens : (Feed.waiting stream).opens? = some source)
    (r : Request) :
    ∃ run', (f.serve r).1.runs[k]? = some run' ∧ run'.Reads v.settings i stream ∧
      (run.InStep source v.state → r.run? = some k ∨ f.happenings i r = [] →
        run'.InStep source (v.settings.replay v.state (f.happenings i r))) := by
  by_cases asked : r.run? = some k
  · obtain ⟨quota, rfl⟩ : ∃ quota, r = .next k quota := by
      cases r with
      | next j quota => exact ⟨quota, congrArg (Request.next · quota) (Option.some.inj asked)⟩
      | _ => cases asked
    obtain ⟨runs, state⟩ := serve_resumed hv hk reads.vehicle quota
    refine ⟨_, runs, reads.resumed _ _ _, fun inStep _ => ?_⟩
    rw [state]
    exact reads.inStep_resumed opens inStep _ _
  · by_cases closed : r = .close k
    · subst closed
      refine ⟨_, serve_close_runs hk, ?_, fun _ _ _ running => by cases running⟩
      rw [reads.vehicle]
      exact .spent _
    · refine ⟨run, serve_runs hk asked closed, reads, fun inStep alone => ?_⟩
      rw [alone.resolve_left asked]
      exact inStep

theorem serveAll_chronicle (hv : f.vehicles[i]? = some v) {requests : List Request}
    (fair : ∀ r ∈ requests, r.IsFair) :
    (f.serveAll requests).vehicles[i]? =
      some { v with state := v.settings.replay v.state (f.chronicle i requests) } := by
  induction requests generalizing f v with
  | nil => exact hv
  | cons r rest ih =>
      obtain ⟨first, others⟩ := List.forall_mem_cons.1 fair
      have hv' := f.serve_vehicles i v hv r first
      rw [chronicle, happenings_eq hv, Settings.replay_append]
      exact ih hv' others

theorem serveAll_reads (hv : f.vehicles[i]? = some v) (hk : f.runs[k]? = some run)
    (reads : run.Reads v.settings i stream) (opens : (Feed.waiting stream).opens? = some source)
    {requests : List Request} (fair : ∀ r ∈ requests, r.IsFair) :
    ∃ run', (f.serveAll requests).runs[k]? = some run' ∧ run'.Reads v.settings i stream ∧
      (run.InStep source v.state → f.Alone i k requests →
        run'.InStep source (v.settings.replay v.state (f.chronicle i requests))) := by
  induction requests generalizing f v run with
  | nil => exact ⟨run, hk, reads, fun inStep _ => inStep⟩
  | cons r rest ih =>
      obtain ⟨first, others⟩ := List.forall_mem_cons.1 fair
      have hv' := f.serve_vehicles i v hv r first
      obtain ⟨between, hk', reads', step⟩ := serve_reads hv hk reads opens r
      obtain ⟨run', final, reads'', later⟩ := ih hv' hk' reads' others
      refine ⟨run', final, reads'', fun inStep ⟨alone, alone'⟩ => ?_⟩
      rw [chronicle, Settings.replay_append, happenings_eq hv]
      have step := step inStep alone
      rw [happenings_eq hv] at step
      exact later step alone'

/-- Whatever else drives its vehicle, a run goes through the items of its own source in order. But
it places them by the count and the name that all who drive the vehicle share: by the number of
lines since a source was opened or the vehicle was reset, and by the name of the source opened
last. So the places it tells of are those in its own source just if the two agree with it, as they
do if nothing else happens to the vehicle. -/
theorem places_shared (hv : f.vehicles[i]? = some v)
    (opens : (Feed.waiting stream).opens? = some source) (requests : List Request)
    (fair : ∀ r ∈ requests, r.IsFair) :
    let k := f.runs.length
    let started := (f.serve (.send i (.start stream))).1
    let g := started.serveAll requests
    let happened := started.chronicle i requests
    ∃ run st, g.runs[k]? = some run ∧ run.Reads v.settings i stream ∧
      g.vehicles[i]? = some { v with state := st } ∧
      st.lineNumber = Event.counted v.state.lineNumber happened ∧
      st.source = Event.named v.state.source happened ∧
      (started.Alone i k requests → run.InStep source st) ∧
      ∀ quota, quota ≠ 0 →
        let x := run.feed.run v.settings g.coloured quota st
        let seen := run.feed.sightings v.settings g.coloured quota st
        (g.serve (.next k quota)).2 = ⟨.stretch x (run.taken + x.taken), x.log⟩ ∧
        x.Tells v.settings g.coloured seen ∧
        PlacedFrom (run.feed.begun v.settings st).lineNumber
          (run.feed.begun v.settings st).source seen ∧
        (PlacedFrom run.taken source seen ↔
          seen.reduceOption = [] ∨ run.InStep source st) := by
  intro k started g happened
  have start : started = { f with runs := f.runs ++ [⟨i, .waiting stream, 0⟩] } :=
    serve_start f hv stream
  have hv' : started.vehicles[i]? = some v := by
    rw [start]
    exact hv
  have hk : started.runs[k]? = some ⟨i, .waiting stream, 0⟩ := by
    rw [start]
    exact List.getElem?_concat_length ..
  obtain ⟨run, final, reads, step⟩ := serveAll_reads hv' hk .waiting opens fair
  obtain ⟨number, name⟩ := v.settings.replay_label v.state happened
  have driven := serveAll_chronicle hv' fair
  have idle : Run.InStep ⟨i, .waiting stream, 0⟩ source v.state := by
    intro rest running
    cases running
  refine ⟨run, _, final, reads, driven, number, name, fun alone => step idle alone,
    fun quota asked => ⟨serve_next_reply driven final reads.vehicle asked, reads.tells opens _ _ _,
      Feed.sightings_placed _ _ _ _ _, reads.placed_iff opens _ _ _⟩⟩

def brokenOff : Stream :=
  .given (.items [.text "DEPLOY 0,0,NORTH".toList, .text "REPORT".toList,
    .unreadable "gone".toList]) (some "a".toList)

def alongside : Stream := .given (.items [.text "REPORT".toList]) (some "b".toList)

theorem places_shared_alongside :
    ∃ (f : Fleet) (v : Vehicle) (requests : List Request),
      f.vehicles[0]? = some v ∧ (Feed.waiting brokenOff).opens? = some (some "a".toList) ∧
      (∀ r ∈ requests, r.IsFair) ∧
      let g := (f.serve (.send 0 (.start brokenOff))).1.serveAll requests
      ∃ run st, g.runs[0]? = some run ∧ run.Reads v.settings 0 brokenOff ∧
        g.vehicles[0]? = some { v with state := st } ∧
        st.lineNumber = 1 ∧ st.source = some "b".toList ∧
        (PlacedFrom run.taken (some "a".toList)
            (run.feed.sightings v.settings g.coloured 1 st) ↔
          (run.feed.sightings v.settings g.coloured 1 st).reduceOption = [] ∨
            run.InStep (some "a".toList) st) := by
  let v : Vehicle := ⟨Settings.standard, State.initial⟩
  let f : Fleet := ⟨false, [v], []⟩
  let requests : List Request := [.send 0 (.start alongside), .next 0 1, .next 1 1]
  have hv : f.vehicles[0]? = some v := rfl
  have opens : (Feed.waiting brokenOff).opens? = some (some "a".toList) := rfl
  have fair : ∀ r ∈ requests, r.IsFair := by simp [requests, Request.IsFair]
  obtain ⟨run, st, hk, reads, driven, number, name, -, each⟩ :=
    places_shared hv opens requests fair
  obtain ⟨-, -, -, placed⟩ := each 1 (by decide)
  exact ⟨f, v, requests, hv, opens, fair, run, st, hk, reads, driven,
    number.trans (by decide +kernel), name.trans (by decide +kernel), placed⟩

theorem places_shared_misplaced :
    let f : Fleet := ⟨false, [⟨Settings.standard, State.initial⟩], []⟩
    let started := f.serveAll [.send 0 (.start brokenOff), .send 0 (.start alongside), .next 0 1]
    (started.serve (.next 0 1)).2.answer.ended? =
        some (.stopped (.unreadable
          ⟨some ⟨some 3, none, some "a".toList⟩, .unreadable "gone".toList, false⟩), 3) ∧
      ((started.serve (.next 1 1)).1.serve (.next 0 1)).2.answer.ended? =
        some (.stopped (.unreadable
          ⟨some ⟨some 2, none, some "b".toList⟩, .unreadable "gone".toList, false⟩), 3) := by
  decide +kernel

end Fleet

end Rover
