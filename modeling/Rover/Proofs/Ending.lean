import Rover.Proofs.Journal

namespace Rover

namespace Settings

variable (s : Settings) (coloured : Bool)

def stopOf (st : State) (item : Item) : Option Stop :=
  match s.lineOf item with
  | .error (some cause) => some (.unreadable (unreadable coloured st cause))
  | .error none => some .broken
  | .ok line =>
      match (s.execute st line).result with
      | .error c => some (.crash c)
      | .ok _ => none

def Passes : State → List Item → Prop
  | _, [] => True
  | st, item :: rest =>
      ∃ line output, s.lineOf item = .ok line ∧ (s.execute st line).result = .ok output ∧
        Passes (s.execute st line).state rest

variable {s coloured} {st : State} {items rest : List Item} {item : Item} {quota : Nat}

theorem stopOf_eq_none :
    s.stopOf coloured st item = none ↔
      ∃ line output, s.lineOf item = .ok line ∧ (s.execute st line).result = .ok output := by
  unfold stopOf
  rcases s.lineOf item with (_ | cause) | line
  · simp
  · simp
  · cases h : (s.execute st line).result <;> simp [h]

theorem stopOf_eq_some {why : Stop} :
    s.stopOf coloured st item = some why ↔
      match why with
      | .unreadable d =>
          ∃ cause, s.lineOf item = .error (some cause) ∧ unreadable coloured st cause = d
      | .crash c => ∃ line, s.lineOf item = .ok line ∧ (s.execute st line).result = .error c
      | .broken => s.lineOf item = .error none := by
  unfold stopOf
  rcases s.lineOf item with (_ | cause) | line
  · cases why <;> simp
  · cases why <;> simp
  · cases h : (s.execute st line).result <;> cases why <;> simp [h]

theorem passes_append (before : List Item) :
    s.Passes st (before ++ rest) ↔
      s.Passes st before ∧ s.Passes (s.after st (s.linesOf before)) rest := by
  induction before generalizing st with
  | nil => simp [Passes, linesOf]
  | cons item before ih =>
      simp only [List.cons_append, Passes, ih]
      constructor
      · rintro ⟨line, output, holds, ok, passed, next⟩
        rw [s.linesOf_cons_ok holds]
        exact ⟨⟨line, output, holds, ok, passed⟩, next⟩
      · rintro ⟨⟨line, output, holds, ok, passed⟩, next⟩
        rw [s.linesOf_cons_ok holds] at next
        exact ⟨line, output, holds, ok, passed, next⟩

theorem advanceBy_of_stopOf {why : Stop} (stop : s.stopOf coloured st item = some why) :
    (s.advanceBy coloured (quota + 1) st (item :: rest)).ending = .stopped why := by
  have stop := stopOf_eq_some.1 stop
  cases why with
  | unreadable d =>
      obtain ⟨cause, bad, rfl⟩ := stop
      rw [advanceBy, bad]
  | crash c =>
      obtain ⟨line, holds, failed⟩ := stop
      simp only [advanceBy, holds, failed]
  | broken => rw [advanceBy, stop]

theorem advanceBy_of_passed (coloured : Bool) (quota : Nat) (rest : List Item) {line : Text}
    {output : Option Text} (holds : s.lineOf item = .ok line)
    (ok : (s.execute st line).result = .ok output) :
    ∃ left, quota ≤ left ∧ (s.advanceBy coloured (quota + 1) st (item :: rest)).ending =
      (s.advanceBy coloured left (s.execute st line).state rest).ending := by
  rw [advanceBy]
  simp only [holds, ok]
  cases output with
  | none => exact ⟨quota + 1, by omega, rfl⟩
  | some text => exact ⟨quota, Nat.le_refl quota, rfl⟩

theorem passes_or_stops (coloured : Bool) (st : State) (items : List Item) :
    s.Passes st items ∨
      ∃ before item rest why, items = before ++ item :: rest ∧ s.Passes st before ∧
        s.stopOf coloured (s.after st (s.linesOf before)) item = some why := by
  induction items generalizing st with
  | nil => exact .inl trivial
  | cons item rest ih =>
      cases stop : s.stopOf coloured st item with
      | some why => exact .inr ⟨[], item, rest, why, rfl, trivial, stop⟩
      | none =>
          obtain ⟨line, output, holds, ok⟩ := stopOf_eq_none.1 stop
          rcases ih (s.execute st line).state with
            passed | ⟨before, last, others, why, rfl, passed, stop⟩
          · exact .inl ⟨line, output, holds, ok, passed⟩
          · refine .inr ⟨item :: before, last, others, why, rfl,
              ⟨line, output, holds, ok, passed⟩, ?_⟩
            rwa [s.linesOf_cons_ok holds]

theorem advanceBy_of_passes (coloured : Bool) (rest : List Item) {before : List Item}
    (passed : s.Passes st before)
    (enough : (before ++ rest).length < quota) :
    ∃ left, rest.length < left ∧ (s.advanceBy coloured quota st (before ++ rest)).ending =
      (s.advanceBy coloured left (s.after st (s.linesOf before)) rest).ending := by
  induction before generalizing st quota with
  | nil => exact ⟨quota, enough, rfl⟩
  | cons item before ih =>
      obtain ⟨quota, rfl⟩ := Nat.exists_eq_add_one_of_ne_zero (by omega : quota ≠ 0)
      obtain ⟨line, output, holds, ok, passed⟩ := passed
      obtain ⟨between, le, same⟩ := advanceBy_of_passed coloured quota (before ++ rest) holds ok
      simp only [List.cons_append, List.length_cons] at enough
      obtain ⟨left, more, eq⟩ := ih passed (by omega : (before ++ rest).length < between)
      refine ⟨left, more, ?_⟩
      rw [s.linesOf_cons_ok holds]
      exact same.trans eq

theorem advanceBy_finished (passed : s.Passes st items) (enough : items.length < quota) :
    (s.advanceBy coloured quota st items).ending = .finished := by
  obtain ⟨left, more, eq⟩ :=
    advanceBy_of_passes coloured [] passed (by simpa using enough)
  obtain ⟨left, rfl⟩ := Nat.exists_eq_add_one_of_ne_zero (Nat.ne_of_gt more)
  rw [List.append_nil] at eq
  exact eq

theorem advanceBy_stopped {before : List Item} {why : Stop} (passed : s.Passes st before)
    (stop : s.stopOf coloured (s.after st (s.linesOf before)) item = some why)
    (enough : (before ++ item :: rest).length < quota) :
    (s.advanceBy coloured quota st (before ++ item :: rest)).ending = .stopped why := by
  obtain ⟨left, more, eq⟩ := advanceBy_of_passes coloured (item :: rest) passed enough
  obtain ⟨left, rfl⟩ := Nat.exists_eq_add_one_of_ne_zero (by omega : left ≠ 0)
  exact eq.trans (advanceBy_of_stopOf stop)

theorem advanceBy_finished_iff (enough : items.length < quota) :
    (s.advanceBy coloured quota st items).ending = .finished ↔ s.Passes st items := by
  refine ⟨fun finished => ?_, fun passed => advanceBy_finished passed enough⟩
  rcases passes_or_stops (s := s) coloured st items with
    passed | ⟨before, item, rest, why, rfl, passed, stop⟩
  · exact passed
  · cases finished.symm.trans (advanceBy_stopped passed stop enough)

theorem advanceBy_stopped_iff {why : Stop} (enough : items.length < quota) :
    (s.advanceBy coloured quota st items).ending = .stopped why ↔
      ∃ before item rest, items = before ++ item :: rest ∧ s.Passes st before ∧
        s.stopOf coloured (s.after st (s.linesOf before)) item = some why := by
  constructor
  · intro stopped
    rcases passes_or_stops (s := s) coloured st items with
      passed | ⟨before, item, rest, why', rfl, passed, stop⟩
    · cases stopped.symm.trans (advanceBy_finished passed enough)
    · obtain rfl := Ending.stopped.inj (stopped.symm.trans (advanceBy_stopped passed stop enough))
      exact ⟨before, item, rest, rfl, passed, stop⟩
  · rintro ⟨before, item, rest, rfl, passed, stop⟩
    exact advanceBy_stopped passed stop enough

theorem advanceBy_taken (finished : (s.advanceBy coloured quota st items).ending = .finished) :
    (s.advanceBy coloured quota st items).taken = items.length := by
  fun_induction advanceBy s coloured quota st items with
  | case1 => cases finished
  | case2 => rfl
  | case3 => cases finished
  | case4 => cases finished
  | case5 => cases finished
  | case6 st quota item rest line holds turn ok ih => exact congrArg (· + 1) (ih finished)
  | case7 st quota item rest line holds turn output ok ih => exact congrArg (· + 1) (ih finished)

variable {stream : Stream}

theorem enough_of_opens? (s : Settings) {source : Option Text}
    (opens : (Feed.waiting stream).opens? = some source) :
    s.enough stream = ((Feed.waiting stream).items s).length + 1 := by
  cases stream with
  | given input name => rfl
  | file name content =>
      cases content with
      | ok content => rfl
      | error e => cases opens

theorem process_eq_begin (s : Settings) (coloured : Bool) (st : State) {source : Option Text}
    (opens : (Feed.waiting stream).opens? = some source) :
    s.process coloured st stream =
      Feed.begin s coloured (((Feed.waiting stream).items s).length + 1) st
        ((Feed.waiting stream).items s) source := by
  rw [process, Feed.run_of_opens? s coloured _ st opens, s.enough_of_opens? opens]

theorem process_of_opens? (s : Settings) (coloured : Bool) (st : State) {source : Option Text}
    (opens : (Feed.waiting stream).opens? = some source) :
    ∃ run, run = s.advanceBy coloured (((Feed.waiting stream).items s).length + 1)
        (s.opening st source) ((Feed.waiting stream).items s) ∧
      (s.process coloured st stream).state = run.state ∧
      (s.process coloured st stream).ending = run.ending := by
  rw [process_eq_begin s coloured st opens]
  exact ⟨_, rfl, rfl, rfl⟩

theorem opens?_eq_none :
    (Feed.waiting stream).opens? = none ↔ ∃ name e, stream = .file name (.error e) := by
  cases stream with
  | given input name => simp [Feed.opens?]
  | file name content => cases content <;> simp [Feed.opens?]

theorem process_finished_iff :
    (s.process coloured st stream).ending = .finished ↔
      ∃ source, (Feed.waiting stream).opens? = some source ∧
        s.Passes (s.opening st source) ((Feed.waiting stream).items s) := by
  cases opens : (Feed.waiting stream).opens? with
  | none =>
      obtain ⟨name, e, rfl⟩ := opens?_eq_none.1 opens
      simp [process, Feed.run]
  | some source =>
      obtain ⟨run, rfl, -, ending⟩ := process_of_opens? s coloured st opens
      rw [ending, advanceBy_finished_iff (Nat.lt_succ_self _)]
      simp

theorem process_state {source : Option Text} (opens : (Feed.waiting stream).opens? = some source)
    (finished : (s.process coloured st stream).ending = .finished) :
    (s.process coloured st stream).state =
      s.after (s.opening st source) (s.linesOf ((Feed.waiting stream).items s)) := by
  obtain ⟨run, rfl, state, ending⟩ := process_of_opens? s coloured st opens
  rw [state, advanceBy_state, advanceBy_taken (ending.symm.trans finished), List.take_length]

theorem process_stopped_iff {why : Stop} :
    (s.process coloured st stream).ending = .stopped why ↔
      (∃ name e, stream = .file name (.error e) ∧ why = Feed.unopened coloured name e) ∨
      ∃ source before item rest, (Feed.waiting stream).opens? = some source ∧
        (Feed.waiting stream).items s = before ++ item :: rest ∧
        s.Passes (s.opening st source) before ∧
        s.stopOf coloured (s.after (s.opening st source) (s.linesOf before)) item = some why := by
  cases opens : (Feed.waiting stream).opens? with
  | none =>
      obtain ⟨name, e, rfl⟩ := opens?_eq_none.1 opens
      change Ending.stopped (Feed.unopened coloured name e) = .stopped why ↔ _
      constructor
      · intro same
        exact .inl ⟨name, e, rfl, (Ending.stopped.inj same).symm⟩
      · rintro (⟨_, _, same, rfl⟩ | ⟨_, _, _, _, opened, -⟩)
        · cases same
          rfl
        · cases opened
  | some source =>
      have opened : ¬ ∃ name e, stream = .file name (.error e) := fun failed => by
        rw [opens?_eq_none.2 failed] at opens
        cases opens
      obtain ⟨run, rfl, -, ending⟩ := process_of_opens? s coloured st opens
      rw [ending, advanceBy_stopped_iff (Nat.lt_succ_self _)]
      constructor
      · rintro ⟨before, item, rest, split, passed, stop⟩
        exact .inr ⟨source, before, item, rest, rfl, split, passed, stop⟩
      · rintro (⟨name, e, rfl, -⟩ | ⟨source', before, item, rest, same, split, passed, stop⟩)
        · exact absurd ⟨name, e, rfl⟩ opened
        · obtain rfl := Option.some.inj same
          exact ⟨before, item, rest, split, passed, stop⟩

theorem process_ends (s : Settings) (coloured : Bool) (st : State) (stream : Stream) :
    (s.process coloured st stream).ending = .finished ∨
      ∃ why, (s.process coloured st stream).ending = .stopped why := by
  rw [process_finished_iff]
  simp only [process_stopped_iff]
  cases opens : (Feed.waiting stream).opens? with
  | none =>
      obtain ⟨name, e, rfl⟩ := opens?_eq_none.1 opens
      exact .inr ⟨_, .inl ⟨name, e, rfl, rfl⟩⟩
  | some source =>
      rcases passes_or_stops (s := s) coloured (s.opening st source)
        ((Feed.waiting stream).items s) with passed | ⟨before, item, rest, why, split, passed, stop⟩
      · exact .inl ⟨source, rfl, passed⟩
      · exact .inr ⟨why, .inr ⟨source, before, item, rest, rfl, split, passed, stop⟩⟩

end Settings

end Rover
