import Rover.Proofs.Session

namespace Rover

def Diagnostic.recoloured (coloured : Bool) (d : Diagnostic) : Diagnostic := { d with coloured }

def Ending.recoloured (coloured : Bool) : Ending → Ending
  | .stopped (.unreadable d) => .stopped (.unreadable (d.recoloured coloured))
  | ending => ending

def Stretch.recoloured (coloured : Bool) (x : Stretch) : Stretch :=
  { x with ending := x.ending.recoloured coloured }

theorem Stretch.recoloured_preceded (coloured : Bool) (entries : List Entry) (x : Stretch) :
    (x.preceded entries).recoloured coloured = (x.recoloured coloured).preceded entries := rfl

namespace Settings

variable (s : Settings) (coloured other : Bool)

theorem advanceBy_recoloured (quota : Nat) (st : State) (items : List Item) :
    s.advanceBy other quota st items = (s.advanceBy coloured quota st items).recoloured other := by
  fun_induction advanceBy s coloured quota st items with
  | case1 st items => rw [advanceBy]; rfl
  | case2 st quota => rw [advanceBy]; rfl
  | case3 st quota item rest cause bad => rw [advanceBy, bad]; rfl
  | case4 st quota item rest bad => rw [advanceBy, bad]; rfl
  | case5 st quota item rest line holds turn c failed =>
      simp only [advanceBy, holds, turn, failed] at *
      rfl
  | case6 st quota item rest line holds turn ok ih =>
      simp only [advanceBy, holds, turn, ok] at *
      rw [ih, Stretch.recoloured_preceded]
  | case7 st quota item rest line holds turn output ok ih =>
      simp only [advanceBy, holds, turn, ok] at *
      rw [ih, Stretch.recoloured_preceded]

theorem process_recoloured (st : State) (stream : Stream) :
    s.process other st stream = (s.process coloured st stream).recoloured other := by
  have begun (quota : Nat) (items : List Item) (source : Option Text) :
      Feed.begin s other quota st items source =
        (Feed.begin s coloured quota st items source).recoloured other := by
    simp only [Feed.begin, s.advanceBy_recoloured coloured other]
    rfl
  cases stream with
  | given input source => exact begun _ _ source
  | file name content =>
      cases content with
      | ok content => exact begun _ _ (some name)
      | error e =>
          simp only [process, Feed.run, Stretch.recoloured, Feed.unopened]
          cases e.text? name <;> rfl

theorem opening_eq_of_fresh {s : Settings} (fresh : s.keepsState = false) (st st' : State)
    (source : Option Text) : s.opening st source = s.opening st' source := by
  simp only [opening, fresh]
  rfl

theorem process_of_fresh {s : Settings} (fresh : s.keepsState = false) (st st' : State)
    (stream : Stream) :
    s.process coloured st' stream =
        { s.process coloured st stream with state := (s.process coloured st' stream).state } ∧
      ((∀ name e, stream ≠ .file name (.error e)) →
        (s.process coloured st' stream).state = (s.process coloured st stream).state) := by
  have begun (quota : Nat) (items : List Item) (source : Option Text) :
      Feed.begin s coloured quota st' items source =
        Feed.begin s coloured quota st items source := by
    simp only [Feed.begin, opening_eq_of_fresh fresh st' st]
  cases stream with
  | given input source =>
      have same : s.process coloured st' (.given input source) =
          s.process coloured st (.given input source) := begun _ _ source
      rw [same]
      exact ⟨rfl, fun _ => rfl⟩
  | file name content =>
      cases content with
      | ok content =>
          have same : s.process coloured st' (.file name (.ok content)) =
              s.process coloured st (.file name (.ok content)) := begun _ _ (some name)
          rw [same]
          exact ⟨rfl, fun _ => rfl⟩
      | error e => exact ⟨rfl, fun opened => absurd rfl (opened name e)⟩

end Settings

namespace Fleet

theorem serve_make_done {g : Fleet} {p : Plan} {zone : Zone} (size : p.size.zone = .ok zone)
    (made : (g.serve (.make p)).2.answer = .done) :
    (g.serve (.make p)).1 =
      ⟨p.coloured, g.vehicles ++ [⟨p.settings zone, State.initial⟩], g.runs⟩ := by
  simp only [serve, make, size] at made ⊢
  cases checked : (p.settings zone).checked with
  | error e =>
      rw [checked] at made
      cases made
  | ok settings => rw [(Settings.of_checked_eq_ok checked).2]

theorem serve_process {f : Fleet} {i : Nat} {v : Vehicle} (hv : f.vehicles[i]? = some v)
    (stream : Stream) {x : Stretch} (ran : v.settings.process f.coloured v.state stream = x) :
    f.serve (.send i (.process stream)) =
      (f.setState i x.state, ⟨.stretch x x.taken, x.log⟩) := by
  simp only [serve, hv, carryOut, ran]

/-- Where runs start afresh, one does on any vehicle what it does on a new one with the same
settings: all is the same but the colours of a report, and the state if no run began. -/
theorem process_as_new {f : Fleet} {i : Nat} {v : Vehicle} (hv : f.vehicles[i]? = some v)
    (fresh : v.settings.keepsState = false) {g : Fleet} {p : Plan}
    (size : p.size.zone = .ok v.settings.zone) (same : p.settings v.settings.zone = v.settings)
    (made : (g.serve (.make p)).2.answer = .done) (stream : Stream) :
    let old := f.serve (.send i (.process stream))
    let new := (g.serve (.make p)).1.serve (.send g.vehicles.length (.process stream))
    ∃ x y : Stretch,
      old.2 = ⟨.stretch x x.taken, x.log⟩ ∧ new.2 = ⟨.stretch y y.taken, y.log⟩ ∧
      old.1.vehicles[i]? = some { v with state := x.state } ∧
      new.1.vehicles[g.vehicles.length]? = some { v with state := y.state } ∧
      y.log = x.log ∧ y.outputs = x.outputs ∧ y.taken = x.taken ∧ y.rest = x.rest ∧
      y.ending = x.ending.recoloured p.coloured ∧
      ((∀ name e, stream ≠ .file name (.error e)) → y.state = x.state) := by
  intro old new
  have hw : (g.serve (.make p)).1.vehicles[g.vehicles.length]? =
      some ⟨v.settings, State.initial⟩ := by
    rw [serve_make_done size made, same]
    simp
  have colour : (g.serve (.make p)).1.coloured = p.coloured := by
    rw [serve_make_done size made]
  obtain ⟨rest, state⟩ := Settings.process_of_fresh f.coloured fresh v.state State.initial stream
  have painted := v.settings.process_recoloured f.coloured p.coloured State.initial stream
  have after := serve_process hv stream rfl
  have after' := serve_process hw stream (congrArg
    (v.settings.process · State.initial stream) colour)
  refine ⟨_, _, congrArg Prod.snd after, congrArg Prod.snd after', ?_, ?_, ?_⟩
  · rw [congrArg Prod.fst after, setState_vehicles, if_pos rfl, hv]
    rfl
  · rw [congrArg Prod.fst after', setState_vehicles, if_pos rfl, hw]
    rfl
  · rw [painted, rest]
    exact ⟨rfl, rfl, rfl, rfl, rfl, state⟩

theorem process_as_new_after_pits :
    ∃ (f : Fleet) (v : Vehicle) (p : Plan) (stream : Stream),
      f.vehicles[0]? = some v ∧ v.settings.keepsState = false ∧
      p.size.zone = .ok v.settings.zone ∧ p.settings v.settings.zone = v.settings ∧
      (Fleet.empty.serve (.make p)).2.answer = .done ∧
      v.state.position = some ⟨0, 0⟩ ∧ ⟨1, 1⟩ ∈ v.state.pits ∧ v.state.chain = true ∧
      ∃ x y : Stretch,
        (f.serve (.send 0 (.process stream))).2 = ⟨.stretch x x.taken, x.log⟩ ∧
        ((Fleet.empty.serve (.make p)).1.serve (.send 0 (.process stream))).2 =
          ⟨.stretch y y.taken, y.log⟩ ∧
        y.outputs = x.outputs ∧ y.ending = x.ending.recoloured true ∧ y.state = x.state := by
  let plan (coloured : Bool) : Plan :=
    ⟨.whole 3, Wording.standard, Vocabulary.standard, Table.empty, .utf8, false, false, coloured⟩
  let stream : Stream := .given
    (.items [.text "DEPLOY 1,1,EAST".toList, .text "REPORT".toList, .raw [0x4D, 0xFF]])
    (some "late".toList)
  let requests : List Request :=
    [.make (plan false), .send 0 (.start (.given (.items
        [.text "DEPLOY 2,2,EAST".toList, .text "REPORT".toList, .text "MOVE".toList]) none)),
      .next 0 1, .send 0 (.executeAll ["DEPLOY 0,0,NORTH".toList, "PIT 0,1".toList]),
      .send 0 (.dig ⟨1, 1⟩)]
  let f : Fleet := requests.foldl (fun f r => (f.serve r).1) Fleet.empty
  let v : Vehicle :=
    ⟨{ Settings.standard with zone := ⟨3, by decide⟩ },
      ⟨true, some ⟨0, 0⟩, some .north, (Pits.empty.insert ⟨0, 1⟩).insert ⟨1, 1⟩, true, 4, none⟩⟩
  have hv : f.vehicles[0]? = some v := by with_unfolding_all rfl
  have size : (plan true).size.zone = .ok v.settings.zone := rfl
  have handled : v.settings.unhandled = [] := by decide +kernel
  have checked : ((plan true).settings v.settings.zone).checked = .ok v.settings :=
    if_pos handled
  have made : (Fleet.empty.serve (.make (plan true))).2.answer = .done := by
    simp only [serve, make, size, checked]
  have opened : ∀ name e, stream ≠ .file name (.error e) := by simp [stream]
  obtain ⟨x, y, old, new, -, -, -, outputs, -, -, ending, state⟩ :=
    process_as_new hv rfl size rfl made stream
  exact ⟨f, v, plan true, stream, hv, rfl, size, rfl, made, rfl, by decide +kernel, rfl, x, y, old,
    new, outputs, ending, state opened⟩

end Fleet

end Rover
