import Rover.Proofs.Lookups
import Rover.Proofs.Tracing

namespace Rover

namespace Text

theorem dropControls_cons {c : Char} (ne : c ≠ escape) (rest : Text) :
    dropControls (c :: rest) = c :: dropControls rest := by
  have none : afterControl? (c :: rest) = none := by
    cases rest with
    | nil => rfl
    | cons d tail => simp [afterControl?, ne]
  rw [dropControls]
  split
  · rename_i after found
    rw [none] at found
    cases found
  · rfl

theorem dropControls_append {s : Text} (clear : s.NoEscape) (rest : Text) :
    dropControls (s ++ rest) = s ++ dropControls rest := by
  induction s with
  | nil => rfl
  | cons c s ih =>
      obtain ⟨ne, later⟩ := noEscape_cons.1 clear
      rw [List.cons_append, dropControls_cons ne, ih later]
      rfl

end Text

namespace Styled

variable {lead title : Text} {c : Char} (told : Styled)

theorem printed_on (ink : Ink) :
    (plain lead ++ (inked ink title ++ told)).printed true =
      lead ++ (ink.opening ++ (title ++ Ink.closing ++ told.render true ++ ['\n'])) := by
  simp [printed, onTerminal, render, plain, inked]

theorem printed_off (clear : lead.NoEscape) (ne : c ≠ Text.escape) (ink : Ink) :
    (plain lead ++ (inked ink (c :: title) ++ told)).printed false =
      lead ++ c :: (Text.dropControls (title ++ told.text) ++ ['\n']) := by
  have plainly : (plain lead ++ (inked ink (c :: title) ++ told)).text =
      lead ++ c :: (title ++ told.text) := by simp
  simp only [printed, onTerminal, render_false, plainly, Text.dropControls_append clear,
    Text.dropControls_cons ne, Bool.false_eq_true, if_false, List.append_assoc, List.cons_append]

theorem printed_entry_ne (ne : c ≠ Text.escape) (ink : Ink) (content : Styled) (level : Int)
    (spaced : Bool) (behind behind' : Text) :
    (entry ink (c :: title) content level spaced).printed true ++ behind ≠
      (entry ink (c :: title) content level spaced).printed false ++ behind' := by
  have clear : Text.NoEscape ((if spaced then ['\n'] else []) ++ List.replicate level.toNat '\t') :=
    Text.noEscape_append.2
      ⟨by cases spaced <;> decide, Text.noEscape_replicate (by decide) _⟩
  obtain ⟨codes, opening⟩ : ∃ codes, ink.opening = Text.escape :: codes := by
    cases ink <;> exact ⟨_, rfl⟩
  simp only [entry]
  rw [List.append_assoc, printed_on, printed_off _ clear ne, opening]
  intro same
  simp only [List.append_assoc, List.cons_append, List.append_cancel_left_eq] at same
  exact ne (List.cons.inj same).1.symm

theorem flatMap_printed_inj (ne : c ≠ Text.escape) {ink : Ink} {content : Styled} {level : Int}
    {spaced : Bool} {later : List Styled} {on off : Bool}
    (same : (entry ink (c :: title) content level spaced :: later).flatMap (printed on) =
      (entry ink (c :: title) content level spaced :: later).flatMap (printed off)) :
    on = off := by
  simp only [List.flatMap_cons] at same
  cases on <;> cases off
  · rfl
  · exact (printed_entry_ne ne ink content level spaced _ _ same.symm).elim
  · exact (printed_entry_ne ne ink content level spaced _ _ same).elim
  · rfl

end Styled

namespace Request

/-- The colours after a request. A switch sets them, and so does an attempt to make a vehicle, as
soon as its size is good, whether or not the vehicle is made in the end. -/
def coloursAfter (on : Bool) : Request → Bool
  | .colour wished => wished
  | .make plan =>
      match plan.size.zone with
      | .ok _ => plan.coloured
      | .error _ => on
  | _ => on

/-- The request is to one of the first `n` vehicles or to a run: it makes no vehicle, and it leaves
the colours alone. -/
def Uses (n : Nat) : Request → Prop
  | .send i _ => i < n
  | .next _ _ => True
  | .close _ => True
  | .make _ => False
  | .colour _ => False

def lines (i : Nat) (texts : List Text) : List Request :=
  texts.map fun line => .send i (.execute line)

variable {n : Nat} {r : Request}

theorem Uses.coloursAfter (uses : r.Uses n) (on : Bool) : r.coloursAfter on = on := by
  cases r with
  | make plan => exact uses.elim
  | colour wished => exact uses.elim
  | _ => rfl

theorem Uses.stripped (uses : r.Uses n) : r.stripped true = r := by
  cases r with
  | make plan => exact uses.elim
  | colour wished => exact uses.elim
  | _ => rfl

end Request

namespace Fleet

def traces : Fleet → List Request → List Styled
  | _, [] => []
  | f, r :: rest => (f.serve r).2.log.filterMap Entry.trace? ++ traces (f.serve r).1 rest

def printed : Fleet → List Request → Text
  | _, [] => []
  | f, r :: rest => (f.serve r).2.shown f.coloured ++ printed (f.serve r).1 rest

variable (f : Fleet)

theorem serve_coloured (r : Request) : (f.serve r).1.coloured = r.coloursAfter f.coloured := by
  cases r with
  | make plan =>
      simp only [serve, make, Request.coloursAfter]
      cases plan.size.zone with
      | error e => rfl
      | ok zone =>
          dsimp only
          split <;> rfl
  | colour on => rfl
  | send i errand =>
      simp only [serve]
      cases f.vehicles[i]? with
      | none => rfl
      | some v => cases errand <;> rfl
  | next k quota =>
      simp only [serve]
      cases f.runs[k]? with
      | none => rfl
      | some run =>
          dsimp only
          cases f.vehicles[run.vehicle]? <;> rfl
  | close k =>
      simp only [serve]
      cases f.runs[k]? <;> rfl

theorem serveAll_coloured (requests : List Request) :
    (f.serveAll requests).coloured = requests.foldl Request.coloursAfter f.coloured := by
  induction requests generalizing f with
  | nil => rfl
  | cons r rest ih =>
      change ((f.serve r).1.serveAll rest).coloured = _
      rw [ih, serve_coloured]
      rfl

def enlarged (others : List Vehicle) : Fleet := { f with vehicles := f.vehicles ++ others }

def IsManned : Prop := ∀ run ∈ f.runs, run.vehicle < f.vehicles.length

variable {f} {r : Request} {others : List Vehicle}

theorem length_setState (i : Nat) (st : State) :
    (f.setState i st).vehicles.length = f.vehicles.length := List.length_modify ..

theorem length_carryOut (i : Nat) (v : Vehicle) (errand : Errand) :
    (f.carryOut i v errand).1.vehicles.length = f.vehicles.length := by
  cases errand with
  | start stream => rfl
  | report => rfl
  | _ => exact length_setState i _

theorem serve_keeps (f : Fleet) (r : Request) :
    f.vehicles.length ≤ (f.serve r).1.vehicles.length ∧
      ∀ run ∈ (f.serve r).1.runs,
        run.vehicle < f.vehicles.length ∨ ∃ old ∈ f.runs, run.vehicle = old.vehicle := by
  have kept : ∀ run ∈ f.runs,
      run.vehicle < f.vehicles.length ∨ ∃ old ∈ f.runs, run.vehicle = old.vehicle :=
    fun run member => .inr ⟨run, member, rfl⟩
  have replaced {k : Nat} {old : Run} (hk : f.runs[k]? = some old) (feed : Feed) (taken : Nat) :
      ∀ run ∈ f.runs.set k ⟨old.vehicle, feed, taken⟩,
        run.vehicle < f.vehicles.length ∨ ∃ old ∈ f.runs, run.vehicle = old.vehicle := by
    intro run member
    rcases List.mem_or_eq_of_mem_set member with member | rfl
    · exact kept run member
    · exact .inr ⟨old, List.mem_of_getElem? hk, rfl⟩
  cases r with
  | make plan =>
      simp only [serve, make]
      split
      · exact ⟨le_rfl, kept⟩
      · split
        · exact ⟨le_rfl, kept⟩
        · exact ⟨by simp, kept⟩
  | colour on => exact ⟨le_rfl, kept⟩
  | send i errand =>
      simp only [serve]
      cases hv : f.vehicles[i]? with
      | none => exact ⟨le_rfl, kept⟩
      | some v =>
          refine ⟨(length_carryOut i v errand).ge, ?_⟩
          cases errand with
          | start stream =>
              have own := (List.getElem?_eq_some_iff.1 hv).1
              exact List.forall_mem_append.2 ⟨kept, List.forall_mem_singleton.2 (.inl own)⟩
          | _ => exact kept
  | next k quota =>
      simp only [serve]
      cases hk : f.runs[k]? with
      | none => exact ⟨le_rfl, kept⟩
      | some run =>
          dsimp only
          cases f.vehicles[run.vehicle]? with
          | none => exact ⟨le_rfl, kept⟩
          | some v => exact ⟨(length_setState run.vehicle _).ge, replaced hk _ _⟩
  | close k =>
      simp only [serve]
      cases hk : f.runs[k]? with
      | none => exact ⟨le_rfl, kept⟩
      | some run => exact ⟨le_rfl, replaced hk _ _⟩

theorem IsManned.serve (manned : f.IsManned) (r : Request) : (f.serve r).1.IsManned := by
  obtain ⟨longer, runs⟩ := f.serve_keeps r
  intro run member
  refine Nat.lt_of_lt_of_le ?_ longer
  rcases runs run member with own | ⟨old, listed, same⟩
  · exact own
  · rw [same]
    exact manned old listed

theorem IsManned.serveAll (manned : f.IsManned) (requests : List Request) :
    (f.serveAll requests).IsManned := by
  induction requests generalizing f with
  | nil => exact manned
  | cons r rest ih => exact ih (manned.serve r)

theorem setState_enlarged {i : Nat} (own : i < f.vehicles.length) (st : State) :
    (f.enlarged others).setState i st = (f.setState i st).enlarged others := by
  have vehicles (change : Vehicle → Vehicle) :
      (f.vehicles ++ others).modify i change = f.vehicles.modify i change ++ others := by
    apply List.ext_getElem?
    intro j
    by_cases before : j < f.vehicles.length
    · have before' : j < (f.vehicles.modify i change).length := by rwa [List.length_modify]
      rw [List.getElem?_append_left before', List.getElem?_modify, List.getElem?_modify,
        List.getElem?_append_left before]
    · have behind : f.vehicles.length ≤ j := Nat.le_of_not_lt before
      have behind' : (f.vehicles.modify i change).length ≤ j := by rwa [List.length_modify]
      have ne : i ≠ j := (own.trans_le behind).ne
      rw [List.getElem?_append_right behind', List.getElem?_modify,
        List.getElem?_append_right behind, List.length_modify]
      simp [ne]
  simp only [setState, enlarged, vehicles]

theorem carryOut_enlarged {i : Nat} (own : i < f.vehicles.length) (v : Vehicle)
    (errand : Errand) :
    (f.enlarged others).carryOut i v errand =
      ((f.carryOut i v errand).1.enlarged others, (f.carryOut i v errand).2) := by
  cases errand with
  | start stream => rfl
  | report => rfl
  | process stream =>
      simp only [carryOut, setState_enlarged own]
      rfl
  | _ => simp only [carryOut, setState_enlarged own]

theorem next_enlarged {run : Run} (own : run.vehicle < f.vehicles.length) (k : Nat) (v : Vehicle)
    (quota : Nat) :
    (f.enlarged others).next k run v quota =
      ((f.next k run v quota).1.enlarged others, (f.next k run v quota).2) := by
  simp only [next, setState_enlarged own]
  rfl

theorem serve_enlarged (manned : f.IsManned) {n : Nat} (most : n ≤ f.vehicles.length)
    (uses : r.Uses n) :
    (f.enlarged others).serve r = ((f.serve r).1.enlarged others, (f.serve r).2) := by
  have same {i : Nat} (own : i < f.vehicles.length) :
      (f.enlarged others).vehicles[i]? = f.vehicles[i]? := List.getElem?_append_left own
  have runs : (f.enlarged others).runs = f.runs := rfl
  cases r with
  | make plan => exact uses.elim
  | colour on => exact uses.elim
  | send i errand =>
      have own : i < f.vehicles.length := Nat.lt_of_lt_of_le uses most
      simp only [serve, same own]
      cases f.vehicles[i]? with
      | none => rfl
      | some v => exact carryOut_enlarged own v errand
  | next k quota =>
      simp only [serve, runs]
      cases hk : f.runs[k]? with
      | none => rfl
      | some run =>
          have own := manned run (List.mem_of_getElem? hk)
          simp only [same own]
          cases f.vehicles[run.vehicle]? with
          | none => rfl
          | some v => exact next_enlarged own k v quota
  | close k =>
      simp only [serve, runs]
      cases f.runs[k]? <;> rfl

section

variable {later : List Request} {n : Nat} (uses : ∀ r ∈ later, r.Uses n)

include uses

theorem later_enlarged (others : List Vehicle) (manned : f.IsManned)
    (most : n ≤ f.vehicles.length) :
    (f.enlarged others).serveAll later = (f.serveAll later).enlarged others ∧
      (f.enlarged others).traces later = f.traces later := by
  induction later generalizing f with
  | nil => exact ⟨rfl, rfl⟩
  | cons r rest ih =>
      obtain ⟨here, later⟩ := List.forall_mem_cons.1 uses
      have step : (f.enlarged others).serve r =
          ((f.serve r).1.enlarged others, (f.serve r).2) := serve_enlarged manned most here
      obtain ⟨after, traces⟩ := ih later (manned.serve r) (most.trans (f.serve_keeps r).1)
      refine ⟨?_, ?_⟩
      · change ((f.enlarged others).serve r).1.serveAll rest = _
        rw [step]
        exact after
      · rw [Fleet.traces, step, traces, Fleet.traces]

theorem later_stripped (f : Fleet) :
    (f.stripped true).serveAll later = (f.serveAll later).stripped true ∧
      (f.stripped true).traces later = f.traces later := by
  induction later generalizing f with
  | nil => exact ⟨rfl, rfl⟩
  | cons r rest ih =>
      obtain ⟨here, later⟩ := List.forall_mem_cons.1 uses
      have step : (f.stripped true).serve (r.stripped true) = _ := serve_stripped (.inl rfl)
      rw [here.stripped] at step
      obtain ⟨after, traces⟩ := ih later (f.serve r).1
      refine ⟨?_, ?_⟩
      · change ((f.stripped true).serve r).1.serveAll rest = _
        rw [step]
        exact after
      · rw [Fleet.traces, step, Reply.stripped_log, traces, Fleet.traces]

theorem printed_of_uses (f : Fleet) :
    f.printed later = (f.traces later).flatMap (Styled.printed f.coloured) := by
  induction later generalizing f with
  | nil => rfl
  | cons r rest ih =>
      obtain ⟨here, later⟩ := List.forall_mem_cons.1 uses
      rw [printed, traces, ih later, serve_coloured, here.coloursAfter, List.flatMap_append]
      rfl

end

theorem stripped_true_vehicles (f : Fleet) : (f.stripped true).vehicles = f.vehicles :=
  List.map_id _

theorem length_serveAll (f : Fleet) (requests : List Request) :
    f.vehicles.length ≤ (f.serveAll requests).vehicles.length := by
  induction requests generalizing f with
  | nil => exact le_rfl
  | cons r rest ih => exact (f.serve_keeps r).1.trans (ih (f.serve r).1)

theorem later_beside {g : Fleet} (manned : f.IsManned) {later : List Request}
    (beside : g.stripped true = (f.stripped true).enlarged others)
    (uses : ∀ r ∈ later, r.Uses f.vehicles.length) :
    g.traces later = f.traces later ∧
      ∀ i < f.vehicles.length,
        (g.serveAll later).vehicles[i]? = (f.serveAll later).vehicles[i]? := by
  have manned' : (f.stripped true).IsManned := by
    rw [IsManned, stripped_true_vehicles]
    exact manned
  obtain ⟨after, traces⟩ := later_stripped uses f
  obtain ⟨after', traces'⟩ := later_stripped uses g
  obtain ⟨enlarged, same⟩ := later_enlarged uses others manned' (by rw [stripped_true_vehicles])
  -- stripped of their colours, the two fleets differ in the further vehicles only
  rw [beside] at after' traces'
  refine ⟨traces'.symm.trans (same.trans traces), fun i own => ?_⟩
  have vehicles : (g.serveAll later).vehicles = (f.serveAll later).vehicles ++ others := by
    rw [← stripped_true_vehicles, ← after', enlarged, after, Fleet.enlarged,
      stripped_true_vehicles]
  rw [vehicles, List.getElem?_append_left (own.trans_le (f.length_serveAll later))]

theorem serve_make_stripped (f : Fleet) (plan : Plan) :
    ∃ others, (f.serve (.make plan)).1.stripped true = (f.stripped true).enlarged others := by
  have none_added : (f.stripped true).enlarged [] = f.stripped true := by
    simp only [enlarged, List.append_nil]
  simp only [serve, make]
  split
  · exact ⟨[], none_added.symm⟩
  · split
    · exact ⟨[], none_added.symm⟩
    · rename_i settings _
      refine ⟨[⟨settings, State.initial⟩], ?_⟩
      simp only [stripped, List.map_append]
      rfl

section

variable {i : Nat} {v : Vehicle}

theorem serve_execute (hv : f.vehicles[i]? = some v) (line : Text) :
    let turn := v.settings.execute v.state line
    f.serve (.send i (.execute line)) =
      (f.setState i turn.state, ⟨answerOf turn.result, turn.entries⟩) := by
  simp only [serve, hv, carryOut]

theorem traces_lines_untraced (hv : f.vehicles[i]? = some v) (untraced : v.settings.traced = false)
    (lines : List Text) : f.traces (Request.lines i lines) = [] := by
  induction lines generalizing f v with
  | nil => rfl
  | cons line rest ih =>
      have after : (f.setState i (v.settings.execute v.state line).state).vehicles[i]? =
          some ⟨v.settings, (v.settings.execute v.state line).state⟩ := by
        rw [setState_vehicles, if_pos rfl, hv]
        rfl
      have silent :
          (v.settings.execute v.state line).entries.filterMap Entry.trace? = [] := by
        simp [Turn.entries, Settings.execute, untraced, List.filterMap_eq_nil_iff, Entry.trace?]
      change (f.serve (.send i (.execute line))).2.log.filterMap _ ++
        traces (f.serve (.send i (.execute line))).1 (Request.lines i rest) = []
      rw [serve_execute hv, silent, ih after untraced]
      rfl

theorem traces_lines_traced (hv : f.vehicles[i]? = some v) (traced : v.settings.traced = true)
    (line : Text) (rest : List Text) :
    ∃ content later, f.traces (Request.lines i (line :: rest)) =
      Styled.entry .header "Line".toList content 0 true :: later := by
  change ∃ content later, (f.serve (.send i (.execute line))).2.log.filterMap _ ++ _ = _
  rw [serve_execute hv]
  simp only [Turn.entries, Settings.execute, traced, if_true, List.map_cons, List.cons_append,
    List.filterMap_cons, Entry.trace?]
  exact ⟨_, _, rfl⟩

theorem flatMap_printed_lines_iff (hv : f.vehicles[i]? = some v) (texts : List Text)
    (on off : Bool) :
    (f.traces (Request.lines i texts)).flatMap (Styled.printed on) =
        (f.traces (Request.lines i texts)).flatMap (Styled.printed off) ↔
      on = off ∨ v.settings.traced = false ∨ texts = [] := by
  constructor
  · intro same
    by_cases traced : v.settings.traced = true
    · cases texts with
      | nil => exact .inr (.inr rfl)
      | cons line rest =>
          obtain ⟨content, later, first⟩ := traces_lines_traced hv traced line rest
          rw [first] at same
          exact .inl (Styled.flatMap_printed_inj (c := 'L') (by decide) same)
    · exact .inr (.inl (Bool.eq_false_iff.2 traced))
  · rintro (same | untraced | rfl)
    · rw [same]
    · rw [traces_lines_untraced hv untraced]
      rfl
    · rfl

theorem make_of_bad_size {plan : Plan} (bad : ∀ n ≥ 1, plan.size ≠ .whole n) :
    (f.make plan).1 = f := by
  unfold make
  split
  · rfl
  · rename_i zone size
    obtain ⟨n, large, same⟩ := (zone_eq_ok_iff plan.size).1 ⟨zone, size⟩
    exact absurd same (bad n large)

/-- An attempt to make a vehicle, whether it succeeds or not, changes nothing about the others and
what they do. But if the size that it asks for is good, it sets the colours in which they trace from
then on: lines of a traced vehicle then print something else than without the attempt, unless the
colours were the same already. -/
theorem make_recolours (requests : List Request) (plan : Plan) :
    let f := empty.serveAll requests
    let g := (f.serve (.make plan)).1
    f.coloured = requests.foldl Request.coloursAfter false ∧
    ((∃ n ≥ 1, plan.size = .whole n) → g.coloured = plan.coloured) ∧
    ((∀ n ≥ 1, plan.size ≠ .whole n) → g = f) ∧
    (∀ later : List Request, (∀ r ∈ later, r.Uses f.vehicles.length) →
      (∀ i < f.vehicles.length,
        (g.serveAll later).vehicles[i]? = (f.serveAll later).vehicles[i]?) ∧
      f.printed later = (f.traces later).flatMap (Styled.printed f.coloured) ∧
      g.printed later = (f.traces later).flatMap (Styled.printed g.coloured)) ∧
    ∀ i v texts, f.vehicles[i]? = some v →
      (g.printed (Request.lines i texts) = f.printed (Request.lines i texts) ↔
        g.coloured = f.coloured ∨ v.settings.traced = false ∨ texts = []) := by
  intro f g
  have manned : f.IsManned := IsManned.serveAll (fun run member => absurd member List.not_mem_nil) _
  obtain ⟨others, beside⟩ := f.serve_make_stripped plan
  have coloured : g.coloured = (Request.make plan).coloursAfter f.coloured := serve_coloured f _
  have printed {later : List Request} (uses : ∀ r ∈ later, r.Uses f.vehicles.length) :
      g.printed later = (f.traces later).flatMap (Styled.printed g.coloured) := by
    rw [printed_of_uses uses, (later_beside manned beside uses).1]
  refine ⟨serveAll_coloured empty requests, ?good, make_of_bad_size, ?later, ?lines⟩
  case good =>
    intro good
    obtain ⟨zone, size⟩ := (zone_eq_ok_iff plan.size).2 good
    rw [coloured, Request.coloursAfter, size]
  case later =>
    intro later uses
    exact ⟨(later_beside manned beside uses).2, printed_of_uses uses f, printed uses⟩
  case lines =>
    intro i v texts hv
    have uses : ∀ r ∈ Request.lines i texts, r.Uses f.vehicles.length := by
      intro r member
      obtain ⟨line, -, rfl⟩ := List.mem_map.1 member
      exact (List.getElem?_eq_some_iff.1 hv).1
    rw [printed uses, printed_of_uses uses f]
    exact flatMap_printed_lines_iff hv texts g.coloured f.coloured

end

theorem make_recolours_between :
    ∃ (first second small : Plan) (f g : Fleet) (later told : List Request) (v : Vehicle),
      first = ⟨.whole 3, Wording.standard, Vocabulary.standard, Table.empty, .utf8, false, true,
        false⟩ ∧
      second = { first with traced := false, coloured := true } ∧
      small = { second with size := .whole 0 } ∧
      f = empty.serveAll [.make first,
        .send 0 (.start (.given (.items [.text "MOVE".toList]) none))] ∧
      f.vehicles[0]? = some v ∧ f.coloured = false ∧ (f.serve (.make small)).1 = f ∧
      g = (f.serve (.make second)).1 ∧ g.coloured = true ∧
      later = [.next 0 1] ∧ (f.traces later).length = 6 ∧
      f.printed later = (f.traces later).flatMap (Styled.printed false) ∧
      g.printed later = (f.traces later).flatMap (Styled.printed true) ∧
      (g.serveAll later).vehicles[0]? = (f.serveAll later).vehicles[0]? ∧
      told = Request.lines 0 ["MOVE".toList] ∧ g.printed told ≠ f.printed told := by
  let first : Plan :=
    ⟨.whole 3, Wording.standard, Vocabulary.standard, Table.empty, .utf8, false, true, false⟩
  let second : Plan := { first with traced := false, coloured := true }
  let small : Plan := { second with size := .whole 0 }
  let requests : List Request :=
    [.make first, .send 0 (.start (.given (.items [.text "MOVE".toList]) none))]
  let v : Vehicle := ⟨first.settings ⟨3, by decide⟩, State.initial⟩
  have hv : (empty.serveAll requests).vehicles[0]? = some v := by with_unfolding_all rfl
  have uses : ∀ r ∈ [Request.next 0 1], r.Uses (empty.serveAll requests).vehicles.length := by
    simp [Request.Uses]
  obtain ⟨off, good, -, later, lines⟩ := make_recolours requests second
  obtain ⟨-, -, bad, -⟩ := make_recolours requests small
  have same := bad fun n large whole => by
    obtain rfl := Size.whole.inj whole
    exact absurd large (by decide)
  have on := good ⟨3, by decide, rfl⟩
  obtain ⟨states, plain, painted⟩ := later _ uses
  rw [off] at plain
  rw [on] at painted
  refine ⟨first, second, small, _, _, _, _, v, rfl, rfl, rfl, rfl, hv, off, same, rfl, on, rfl,
    by decide +kernel, plain, painted, states 0 (by decide +kernel), rfl, fun equal => ?_⟩
  rcases (lines 0 v _ hv).1 equal with unchanged | untraced | none
  · rw [on, off] at unchanged
    cases unchanged
  · cases untraced
  · cases none

/-- A further vehicle takes the colours from a coloured one, even if it is not made. -/
theorem make_changes_trace :
    ∃ (first plain unhandled : Plan) (f : Fleet) (v : Vehicle) (told : List Request),
      first = ⟨.whole 3, Wording.standard, Vocabulary.standard, Table.empty, .utf8, false, true,
        true⟩ ∧
      plain = { first with coloured := false } ∧
      unhandled = { plain with
        vocabulary := .ofVerbs [.report, .custom "HOP".toList []] false } ∧
      f = empty.serveAll [.make first] ∧ f.vehicles[0]? = some v ∧ v.settings.traced = true ∧
      (f.serve (.make plain)).1.vehicles.length = 2 ∧
      (∃ e, (f.serve (.make unhandled)).2.answer = .refused e) ∧
      told = Request.lines 0 ["REPORT".toList] ∧
      f.printed told = ("\n\x1b[32mLine\x1b[0m 1:\"REPORT\"\n"
        ++ "\t\x1b[33mIgnored:\x1b[0m robot not deployed.\n"
        ++ "\t\x1b[32mCommand:\x1b[0m REPORT\n"
        ++ "\t\x1b[32mState:\x1b[0m not deployed\n").toList ∧
      (f.serve (.make plain)).1.printed told = ("\nLine 1:\"REPORT\"\n"
        ++ "\tIgnored: robot not deployed.\n\tCommand: REPORT\n\tState: not deployed\n").toList ∧
      (f.serve (.make unhandled)).1.printed told = (f.serve (.make plain)).1.printed told ∧
      (f.serve (.make plain)).1.printed told ≠ f.printed told := by
  let first : Plan :=
    ⟨.whole 3, Wording.standard, Vocabulary.standard, Table.empty, .utf8, false, true, true⟩
  let plain : Plan := { first with coloured := false }
  let v : Vehicle := ⟨first.settings ⟨3, by decide⟩, State.initial⟩
  have hv : (empty.serveAll [.make first]).vehicles[0]? = some v := by with_unfolding_all rfl
  obtain ⟨e, message, refused, -⟩ := (make_refused_iff (empty.serveAll [.make first])
    { plain with vocabulary := .ofVerbs [.report, .custom "HOP".toList []] false }).1.2
      ⟨.inr ⟨"HOP".toList, by decide, rfl, by decide⟩, by simp [plain, first, Size.shown?]⟩
  exact ⟨first, plain, _, _, v, _, rfl, rfl, rfl, rfl, hv, rfl, by decide +kernel, ⟨e, refused⟩,
    rfl, by decide +kernel⟩

end Fleet

end Rover
