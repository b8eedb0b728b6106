import Mathlib.Algebra.GroupWithZero.Nat
import Mathlib.Data.List.ReduceOption
import Rover.Proofs.Interleaving
import Rover.Proofs.Mistakes
import Rover.Proofs.Walking

namespace Rover

def Stretch.followed (x y : Stretch) : Stretch :=
  ⟨y.state, x.log ++ y.log, y.rest, x.taken + y.taken, y.ending⟩

theorem Stretch.preceded_followed (entries : List Entry) (x y : Stretch) :
    (x.preceded entries).followed y = (x.followed y).preceded entries := by
  simp only [preceded, followed, List.append_assoc, Nat.add_right_comm]

namespace Settings

variable {s : Settings} {st : State} {lines : List Text} {items others : List Item}
  {sooner later answers : List (Option Text)} {answer : Option Text} {output : Text}

theorem advanceBy_add (coloured : Bool) (a b : Nat) (st : State) (items : List Item) :
    s.advanceBy coloured (a + b) st items =
      if (s.advanceBy coloured a st items).ending = .paused then
        (s.advanceBy coloured a st items).followed
          (s.advanceBy coloured b (s.advanceBy coloured a st items).state
            (s.advanceBy coloured a st items).rest)
      else s.advanceBy coloured a st items := by
  fun_induction advanceBy s coloured a st items with
  | case1 st items => simp [Stretch.followed]
  | case2 quota st =>
      rw [Nat.succ_add, advanceBy]
      rfl
  | case3 quota st item rest cause bad =>
      rw [Nat.succ_add, advanceBy, bad]
      rfl
  | case4 quota st item rest bad =>
      rw [Nat.succ_add, advanceBy, bad]
      rfl
  | case5 quota st item rest line holds turn c failed =>
      rw [Nat.succ_add, advanceBy]
      simp only [holds, failed, turn]
      rfl
  | case6 quota st item rest line holds turn ok ih =>
      rw [Nat.succ_add, advanceBy]
      simp only [holds, ok, turn]
      rw [← Nat.add_right_comm, ih, apply_ite (Stretch.preceded _), ← Stretch.preceded_followed]
      rfl
  | case7 quota st item rest line holds turn output ok ih =>
      rw [Nat.succ_add, advanceBy]
      simp only [holds, ok, turn]
      rw [ih, apply_ite (Stretch.preceded _), ← Stretch.preceded_followed]
      rfl

theorem advanceBy_silent (coloured : Bool) (quota : Nat) (others : List Item) {item : Item}
    {line : Text} (holds : s.lineOf item = .ok line) (ok : (s.execute st line).result = .ok none) :
    s.advanceBy coloured (quota + 1) st (item :: others) =
      (s.advanceBy coloured (quota + 1) (s.execute st line).state others).preceded
        (s.execute st line).entries := by
  rw [advanceBy]
  simp only [holds, ok]

theorem advanceBy_output (coloured : Bool) (quota : Nat) (others : List Item) {item : Item}
    {line : Text} (holds : s.lineOf item = .ok line)
    (ok : (s.execute st line).result = .ok (some output)) :
    s.advanceBy coloured (quota + 1) st (item :: others) =
      (s.advanceBy coloured quota (s.execute st line).state others).preceded
        ((s.execute st line).entries ++ [.output output]) := by
  rw [advanceBy]
  simp only [holds, ok]

theorem executeAll_cons_ok (ok : (s.executeAll st lines).2.2 = .ok (answer :: later)) :
    ∃ line rest, lines = line :: rest ∧ (s.execute st line).result = .ok answer ∧
      (s.executeAll (s.execute st line).state rest).2.2 = .ok later := by
  cases lines with
  | nil => cases ok
  | cons line rest =>
      cases result : (s.execute st line).result with
      | error c => simp [executeAll, result] at ok
      | ok output =>
          rw [(executeAll_cons rest result).2] at ok
          cases others : (s.executeAll (s.execute st line).state rest).2.2 with
          | error c => simp [others, Except.map] at ok
          | ok answers =>
              rw [others] at ok
              obtain ⟨rfl, rfl⟩ := List.cons.inj (Except.ok.inj ok)
              exact ⟨line, rest, rfl, result, others⟩

theorem executeAll_length (ok : (s.executeAll st lines).2.2 = .ok answers) :
    lines.length = answers.length := by
  induction answers generalizing st lines with
  | nil =>
      cases lines with
      | nil => rfl
      | cons line rest =>
          cases result : (s.execute st line).result with
          | error c => simp [executeAll, result] at ok
          | ok output =>
              rw [(executeAll_cons rest result).2] at ok
              cases others : (s.executeAll (s.execute st line).state rest).2.2 <;>
                simp [others, Except.map] at ok
  | cons answer answers ih =>
      obtain ⟨line, rest, rfl, -, others⟩ := executeAll_cons_ok ok
      exact congrArg (· + 1) (ih others)

theorem executeAll_take (ok : (s.executeAll st lines).2.2 = .ok (sooner ++ later)) :
    (s.executeAll st (lines.take sooner.length)).2.2 = .ok sooner := by
  induction sooner generalizing st lines with
  | nil => rfl
  | cons answer sooner ih =>
      obtain ⟨line, rest, rfl, result, others⟩ := executeAll_cons_ok ok
      rw [List.length_cons, List.take_succ_cons, (executeAll_cons _ result).2, ih others]
      rfl

theorem advanceBy_draws (coloured : Bool) (others : List Item)
    (held : items.map s.lineOf = lines.map .ok)
    (ok : (s.executeAll st lines).2.2 = .ok (sooner ++ [some output])) :
    let x := s.advanceBy coloured (sooner.reduceOption.length + 1) st (items ++ others)
    x.state = s.after st lines ∧ x.outputs = sooner.reduceOption ++ [output] ∧ x.rest = others ∧
      x.taken = lines.length ∧ x.ending = .paused := by
  induction sooner generalizing st lines items with
  | nil =>
      obtain ⟨line, rest, rfl, result, done⟩ := executeAll_cons_ok ok
      obtain rfl := List.length_eq_zero_iff.1 (executeAll_length done)
      obtain ⟨item, none_left, rfl, holds, empty⟩ := List.map_eq_cons_iff.1 held
      obtain rfl := List.map_eq_nil_iff.1 empty
      rw [List.cons_append, List.reduceOption_nil, List.length_nil,
        advanceBy_output coloured 0 _ holds result, advanceBy]
      refine ⟨rfl, ?_, rfl, rfl, rfl⟩
      rw [outputs_preceded_output]
      rfl
  | cons answer sooner ih =>
      obtain ⟨line, rest, rfl, result, done⟩ := executeAll_cons_ok ok
      obtain ⟨item, items, rfl, holds, held⟩ := List.map_eq_cons_iff.1 held
      obtain ⟨state, outputs, left, taken, ending⟩ := ih held done
      rw [List.cons_append]
      -- a silent line leaves the quota as it is, and an answered one takes one off it
      cases answer with
      | none =>
          rw [List.reduceOption_cons_of_none, advanceBy_silent coloured _ _ holds result]
          refine ⟨state, ?_, left, congrArg (· + 1) taken, ending⟩
          rw [outputs_preceded_silent, outputs]
      | some first =>
          rw [List.reduceOption_cons_of_some, List.length_cons,
            advanceBy_output coloured _ _ holds result]
          refine ⟨state, ?_, left, congrArg (· + 1) taken, ending⟩
          rw [outputs_preceded_output, outputs]
          rfl

theorem advanceBy_exhausts (coloured : Bool) {quota : Nat}
    (held : items.map s.lineOf = lines.map .ok)
    (ok : (s.executeAll st lines).2.2 = .ok answers) (few : answers.reduceOption.length < quota) :
    let x := s.advanceBy coloured quota st items
    x.state = s.after st lines ∧ x.outputs = answers.reduceOption ∧ x.taken = lines.length ∧
      x.ending = .finished := by
  obtain ⟨quota, rfl⟩ := Nat.exists_eq_add_one_of_ne_zero (Nat.ne_of_gt (Nat.zero_lt_of_lt few))
  induction answers generalizing st lines items quota with
  | nil =>
      obtain rfl := List.length_eq_zero_iff.1 (executeAll_length ok)
      obtain rfl := List.map_eq_nil_iff.1 held
      exact ⟨rfl, (s.announce_silent _).2, rfl, rfl⟩
  | cons answer answers ih =>
      obtain ⟨line, rest, rfl, result, done⟩ := executeAll_cons_ok ok
      obtain ⟨item, items, rfl, holds, held⟩ := List.map_eq_cons_iff.1 held
      cases answer with
      | none =>
          rw [List.reduceOption_cons_of_none] at few ⊢
          obtain ⟨state, outputs, taken, ending⟩ := ih held done quota few
          rw [advanceBy_silent coloured _ _ holds result]
          refine ⟨state, ?_, congrArg (· + 1) taken, ending⟩
          rw [outputs_preceded_silent, outputs]
      | some first =>
          rw [List.reduceOption_cons_of_some, List.length_cons] at few
          obtain ⟨quota, rfl⟩ := Nat.exists_eq_add_one_of_ne_zero (by omega : quota ≠ 0)
          obtain ⟨state, outputs, taken, ending⟩ := ih held done quota (by omega)
          rw [advanceBy_output coloured _ _ holds result, List.reduceOption_cons_of_some]
          refine ⟨state, ?_, congrArg (· + 1) taken, ending⟩
          rw [outputs_preceded_output, outputs]

theorem begins_of_prefix {item : Item} {rest : List Item}
    (held : (item :: rest).map s.lineOf <+: others.map s.lineOf) :
    ∃ item' rest', others = item' :: rest' ∧ s.lineOf item' = s.lineOf item ∧
      rest.map s.lineOf <+: rest'.map s.lineOf := by
  cases others with
  | nil => simp at held
  | cons item' rest' =>
      obtain ⟨same, held⟩ := List.cons_prefix_cons.1 held
      exact ⟨item', rest', rfl, same.symm, held⟩

theorem advanceBy_prefix (coloured : Bool) {a b : Nat} (le : a ≤ b) (st : State)
    (held : items.map s.lineOf <+: others.map s.lineOf) :
    (s.advanceBy coloured a st items).outputs <+: (s.advanceBy coloured b st others).outputs := by
  fun_induction advanceBy s coloured a st items generalizing b others with
  | case1 st items => exact List.nil_prefix
  | case2 quota st =>
      change List.filterMap _ (s.announce _) <+: _
      rw [(s.announce_silent _).2]
      exact List.nil_prefix
  | case3 quota st item rest cause bad => exact List.nil_prefix
  | case4 quota st item rest bad => exact List.nil_prefix
  | case5 quota st item rest line holds turn c =>
      change List.filterMap _ turn.entries <+: _
      rw [turn.outputs_entries]
      exact List.nil_prefix
  | case6 quota st item rest line holds turn ok =>
      rename_i ih
      obtain ⟨item', rest', rfl, holds', held⟩ := begins_of_prefix held
      obtain ⟨b, rfl⟩ := Nat.exists_eq_add_one_of_ne_zero (by omega : b ≠ 0)
      rw [advanceBy_silent coloured b rest' (holds'.trans holds) ok, outputs_preceded_silent,
        outputs_preceded_silent]
      exact ih le held
  | case7 quota st item rest line holds turn output ok =>
      rename_i ih
      obtain ⟨item', rest', rfl, holds', held⟩ := begins_of_prefix held
      obtain ⟨b, rfl⟩ := Nat.exists_eq_add_one_of_ne_zero (by omega : b ≠ 0)
      rw [advanceBy_output coloured b rest' (holds'.trans holds) ok, outputs_preceded_output,
        outputs_preceded_output]
      exact List.cons_prefix_cons.2 ⟨rfl, ih (Nat.le_of_succ_le_succ le) held⟩

theorem exists_output {n : Nat} (few : n < answers.reduceOption.length) :
    ∃ sooner output later, answers = sooner ++ some output :: later ∧
      sooner.reduceOption.length = n := by
  induction answers generalizing n with
  | nil => exact absurd few (Nat.not_lt_zero n)
  | cons answer answers ih =>
      cases answer with
      | none =>
          obtain ⟨sooner, output, later, rfl, count⟩ := ih few
          exact ⟨none :: sooner, output, later, rfl, count⟩
      | some first =>
          cases n with
          | zero => exact ⟨[], first, answers, rfl, rfl⟩
          | succ n =>
              obtain ⟨sooner, output, later, rfl, count⟩ := ih (Nat.lt_of_succ_lt_succ few)
              exact ⟨some first :: sooner, output, later, rfl, congrArg (· + 1) count⟩

theorem after_lineNumber (s : Settings) (st : State) (lines : List Text) :
    (s.after st lines).lineNumber = st.lineNumber + lines.length := by
  induction lines generalizing st with
  | nil => rfl
  | cons line rest ih =>
      rw [after_cons, ih, execute_lineNumber, List.length_cons, Nat.add_assoc, Nat.add_comm 1]

end Settings

namespace Feed

variable {coloured : Bool} {st : State}

theorem begin_add (s : Settings) (coloured : Bool) (a b : Nat) (st : State) (items : List Item)
    (source : Option Text) :
    let x := Feed.begin s coloured a st items source
    Feed.begin s coloured (a + b) st items source =
      if x.ending = .paused then x.followed (s.advanceBy coloured b x.state x.rest) else x := by
  simp only [Feed.begin, Settings.advanceBy_add coloured a b]
  by_cases paused : (s.advanceBy coloured a (s.opening st source) items).ending = .paused
  · simp only [paused, if_true, Stretch.followed, List.append_assoc]
  · simp only [paused, if_false]

theorem run_add (s : Settings) (coloured : Bool) (a b : Nat) (st : State) (feed : Feed) :
    let x := feed.run s coloured a st
    feed.run s coloured (a + b) st =
      if x.ending = .paused then x.followed (s.advanceBy coloured b x.state x.rest) else x := by
  cases feed with
  | spent => rfl
  | running rest => exact Settings.advanceBy_add coloured a b st rest
  | waiting stream =>
      cases stream with
      | given input source => exact begin_add s coloured a b st _ source
      | file name content =>
          cases content with
          | ok content => exact begin_add s coloured a b st _ (some name)
          | error e => rfl

theorem after_of_paused {x : Stretch} (paused : x.ending = .paused) :
    after x = .running x.rest := by
  unfold after
  rw [paused]

theorem after_of_ended {x : Stretch} (ended : x.ending ≠ .paused) : after x = .spent := by
  unfold after
  split
  · exact absurd ‹_› ended
  · rfl

theorem resume_add (s : Settings) (coloured : Bool) (a b : Nat) (st : State) (feed : Feed) :
    let x := feed.resume s coloured a st
    let y := x.2.resume s coloured b x.1.state
    let both := feed.resume s coloured (a + b) st
    both.2 = y.2 ∧ both.1.state = y.1.state ∧ both.1.outputs = x.1.outputs ++ y.1.outputs ∧
      both.1.taken = x.1.taken + y.1.taken := by
  intro x y both
  by_cases first : a = 0
  · subst first
    simp [x, y, both, resume, Stretch.outputs]
  · have asked : a + b ≠ 0 := by omega
    have here : x = _ := resume_of_ne_zero s coloured st feed first
    have whole : both = _ := resume_of_ne_zero s coloured st feed asked
    by_cases second : b = 0
    · subst second
      simp [x, y, both, resume, Stretch.outputs]
    · have there : y = _ := resume_of_ne_zero s coloured x.1.state x.2 second
      rw [whole, there, here, run_add]
      dsimp only
      -- a run that did not pause is spent, and gives nothing more
      split
      · rename_i paused
        rw [after_of_paused paused]
        exact ⟨rfl, rfl, List.filterMap_append, rfl⟩
      · rename_i ended
        rw [after_of_ended ended]
        exact ⟨rfl, rfl, (List.append_nil _).symm, rfl⟩

variable {s : Settings} {stream : Stream} {source : Option Text} {lines : List Text}
  {sooner answers : List (Option Text)} {output : Text}

theorem resume_draws (coloured : Bool) (opens : (Feed.waiting stream).opens? = some source)
    (held : (((Feed.waiting stream).items s).map s.lineOf).take lines.length = lines.map .ok)
    (ok : (s.executeAll (s.opening st source) lines).2.2 = .ok (sooner ++ [some output])) :
    let x := (Feed.waiting stream).resume s coloured (sooner.reduceOption.length + 1) st
    x.1.state = s.after (s.opening st source) lines ∧
      x.1.outputs = sooner.reduceOption ++ [output] ∧ x.1.taken = lines.length ∧
      x.2 = .running (((Feed.waiting stream).items s).drop lines.length) := by
  rw [← List.map_take] at held
  have drawn :=
    Settings.advanceBy_draws coloured (((Feed.waiting stream).items s).drop lines.length) held ok
  rw [List.take_append_drop] at drawn
  obtain ⟨state, outputs, rest, taken, ending⟩ := drawn
  rw [resume_of_ne_zero s coloured st _ (Nat.succ_ne_zero _), run_of_opens? s coloured _ st opens,
    ← rest]
  exact ⟨state, (begin_outputs _ source).trans outputs, taken, after_of_paused ending⟩

theorem resume_exhausts (coloured : Bool) (held : stream.Holds s source lines)
    (ok : (s.executeAll (s.opening st source) lines).2.2 = .ok answers) {quota : Nat}
    (few : answers.reduceOption.length < quota) :
    let x := (Feed.waiting stream).resume s coloured quota st
    x.1.state = s.after (s.opening st source) lines ∧ x.1.outputs = answers.reduceOption ∧
      x.1.taken = lines.length ∧ x.2 = .spent := by
  obtain ⟨state, outputs, taken, ending⟩ :=
    Settings.advanceBy_exhausts coloured held.lines ok few
  rw [resume_of_ne_zero s coloured st _ (by omega), run_of_opens? s coloured _ st held.opens]
  refine ⟨state, (begin_outputs _ source).trans outputs, taken, after_of_ended ?_⟩
  change (s.advanceBy _ _ _ _).ending ≠ _
  rw [ending]
  exact Ending.noConfusion

end Feed

namespace Fleet

/-- Run `k`, which drives vehicle `i`, took the lines, no more, and left the vehicle as it stands
after them. -/
structure Took (f : Fleet) (k i : Nat) (v : Vehicle) (source : Option Text) (lines : List Text)
    (feed : Feed) : Prop where
  state : f.vehicles[i]? =
    some { v with state := v.settings.after (v.settings.opening v.state source) lines }
  counted :
    (v.settings.after (v.settings.opening v.state source) lines).lineNumber = lines.length
  run : f.runs[k]? = some ⟨i, feed, lines.length⟩

variable {f : Fleet} {i k : Nat} {v : Vehicle}

theorem serveAll_nexts {feed : Feed} {taken : Nat} (hv : f.vehicles[i]? = some v)
    (hk : f.runs[k]? = some ⟨i, feed, taken⟩) (quotas : List Nat) :
    let x := feed.resume v.settings f.coloured quotas.sum v.state
    (f.serveAll (quotas.map (.next k))).vehicles[i]? = some { v with state := x.1.state } ∧
      (f.serveAll (quotas.map (.next k))).runs[k]? = some ⟨i, x.2, taken + x.1.taken⟩ ∧
      f.outputsOf k (quotas.map (.next k)) = x.1.outputs := by
  induction quotas generalizing f v feed taken with
  | nil => exact ⟨hv, hk, rfl⟩
  | cons quota quotas ih =>
      have served := serve_next hk hv quota
      have hk' := serve_next_runs hk hv quota
      have hv' : (f.serve (.next k quota)).1.vehicles[i]? =
          some { v with state := (feed.resume v.settings f.coloured quota v.state).1.state } := by
        rw [served]
        change (f.setState i _).vehicles[i]? = _
        rw [setState_vehicles, if_pos rfl, hv]
        rfl
      have colours : (f.serve (.next k quota)).1.coloured = f.coloured := by
        rw [served]
        rfl
      obtain ⟨vehicle, run, outputs⟩ := ih hv' hk'
      rw [colours] at vehicle run outputs
      obtain ⟨feed', state, given, count⟩ :=
        Feed.resume_add v.settings f.coloured quota quotas.sum v.state feed
      rw [List.sum_cons, List.map_cons]
      dsimp only
      rw [feed', state, given, count, ← Nat.add_assoc, outputsOf, outputs, served]
      refine ⟨vehicle, run, ?_⟩
      simp only [Request.run?, if_true]
      rfl

variable {stream : Stream} {source : Option Text} {lines : List Text}
  {sooner answers : List (Option Text)} {output : Text} {quotas : List Nat}

theorem opening_counted (s : Settings) (st : State) (source : Option Text) (lines : List Text) :
    (s.after (s.opening st source) lines).lineNumber = lines.length := by
  rw [s.after_lineNumber]
  exact Nat.zero_add _

theorem took_draws (hv : f.vehicles[i]? = some v)
    (hk : f.runs[k]? = some ⟨i, .waiting stream, 0⟩)
    (opens : (Feed.waiting stream).opens? = some source)
    (held : (((Feed.waiting stream).items v.settings).map v.settings.lineOf).take lines.length =
      lines.map .ok)
    (ok : (v.settings.executeAll (v.settings.opening v.state source) lines).2.2 =
      .ok (sooner ++ [some output]))
    (count : sooner.reduceOption.length + 1 = quotas.sum) :
    f.outputsOf k (quotas.map (.next k)) = sooner.reduceOption ++ [output] ∧
      (f.serveAll (quotas.map (.next k))).Took k i v source lines
        (.running (((Feed.waiting stream).items v.settings).drop lines.length)) := by
  obtain ⟨vehicle, run, given⟩ := serveAll_nexts hv hk quotas
  obtain ⟨state, outputs, taken, feed⟩ := Feed.resume_draws f.coloured opens held ok
  rw [← count, state] at vehicle
  rw [← count, feed, taken, Nat.zero_add] at run
  rw [← count, outputs] at given
  exact ⟨given, vehicle, opening_counted _ _ _ _, run⟩

/-- A run takes from its source the lines up to the one that gives the last output it was asked
for, and no later line has a say in what it gives. -/
theorem nexts_draw (hv : f.vehicles[i]? = some v)
    (hk : f.runs[k]? = some ⟨i, .waiting stream, 0⟩) (held : stream.Holds v.settings source lines)
    (ok : (v.settings.executeAll (v.settings.opening v.state source) lines).2.2 = .ok answers) :
    (∀ quotas : List Nat, 0 < quotas.sum →
      let requests := quotas.map (Request.next k)
      (quotas.sum ≤ answers.reduceOption.length →
        ∃ sooner output later, answers = sooner ++ some output :: later ∧
          sooner.reduceOption.length + 1 = quotas.sum ∧
          ∃ drawn, drawn = lines.take (sooner.length + 1) ∧ drawn.length = sooner.length + 1 ∧
            f.outputsOf k requests = sooner.reduceOption ++ [output] ∧
            (f.serveAll requests).Took k i v source drawn
              (.running (((Feed.waiting stream).items v.settings).drop drawn.length)) ∧
            ∀ (g : Fleet) (stream' : Stream), g.vehicles[i]? = some v →
              g.runs[k]? = some ⟨i, .waiting stream', 0⟩ →
              (Feed.waiting stream').opens? = some source →
              (((Feed.waiting stream').items v.settings).map v.settings.lineOf).take drawn.length =
                drawn.map .ok →
              g.outputsOf k requests = f.outputsOf k requests ∧
                (g.serveAll requests).Took k i v source drawn
                  (.running (((Feed.waiting stream').items v.settings).drop drawn.length))) ∧
      (answers.reduceOption.length < quotas.sum →
        f.outputsOf k requests = answers.reduceOption ∧
          (f.serveAll requests).Took k i v source lines .spent)) ∧
    ∀ coloured st name (part whole : Stream), (Feed.waiting part).opens? = some name →
      (Feed.waiting whole).opens? = some name →
      ((Feed.waiting part).items v.settings).map v.settings.lineOf <+:
        ((Feed.waiting whole).items v.settings).map v.settings.lineOf →
      (v.settings.process coloured st part).outputs <+:
        (v.settings.process coloured st whole).outputs := by
  refine ⟨fun quotas asked => ⟨fun enough => ?_, fun few => ?_⟩, ?_⟩
  · obtain ⟨sooner, output, later, rfl, count⟩ :=
      Settings.exists_output (by omega : quotas.sum - 1 < answers.reduceOption.length)
    have count : sooner.reduceOption.length + 1 = quotas.sum := by omega
    have long : lines.length = sooner.length + (later.length + 1) := by
      rw [Settings.executeAll_length ok, List.length_append, List.length_cons]
    have short : (lines.take (sooner.length + 1)).length = sooner.length + 1 := by
      rw [List.length_take]
      omega
    have drawn : (v.settings.executeAll (v.settings.opening v.state source)
        (lines.take (sooner.length + 1))).2.2 = .ok (sooner ++ [some output]) := by
      rw [List.append_cons] at ok
      have taken := Settings.executeAll_take ok
      rwa [List.length_append, List.length_singleton] at taken
    have begins : (((Feed.waiting stream).items v.settings).map v.settings.lineOf).take
        (lines.take (sooner.length + 1)).length = (lines.take (sooner.length + 1)).map .ok := by
      rw [short, held.lines, List.map_take]
    obtain ⟨outputs, took⟩ := took_draws hv hk held.opens begins drawn count
    refine ⟨sooner, output, later, rfl, count, _, rfl, short, outputs, took, ?_⟩
    intro g stream' hv' hk' opens begins'
    rw [outputs]
    exact took_draws hv' hk' opens begins' drawn count
  · obtain ⟨vehicle, run, given⟩ := serveAll_nexts hv hk quotas
    obtain ⟨state, outputs, taken, feed⟩ := Feed.resume_exhausts f.coloured held ok few
    rw [state] at vehicle
    rw [feed, taken, Nat.zero_add] at run
    rw [outputs] at given
    exact ⟨given, vehicle, opening_counted _ _ _ _, run⟩
  · intro coloured st name part whole opens opens' begins
    rw [Settings.process_eq_begin _ _ _ opens, Settings.process_eq_begin _ _ _ opens',
      Feed.begin_outputs, Feed.begin_outputs]
    have le := begins.length_le
    simp only [List.length_map] at le
    exact Settings.advanceBy_prefix coloured (Nat.succ_le_succ le) _ begins

theorem nexts_draw_twice :
    ∃ (f g : Fleet) (v : Vehicle) (stream stream' : Stream) (requests : List Request),
      stream = .given (.text
        "DEPLOY 0,0,WEST\nREPORT\nJUMP\nMOVE\nPIT 1,1\nREPORT".toList) none ∧
      stream' = .given (.items [.text "DEPLOY 0,0,WEST".toList, .text "REPORT".toList,
        .text "JUMP".toList, .text "MOVE".toList, .broken]) none ∧
      v = ⟨Settings.standard, State.initial⟩ ∧
      f = ⟨false, [v], [⟨0, .waiting stream, 0⟩]⟩ ∧ g = ⟨true, [v], [⟨0, .waiting stream', 0⟩]⟩ ∧
      requests = [1, 0, 1].map (Request.next 0) ∧
      f.outputsOf 0 requests = ["0,0,WEST".toList, "Outside Zone: Ignored".toList] ∧
      g.outputsOf 0 requests = f.outputsOf 0 requests ∧
      (f.serveAll requests).Took 0 0 v none ["DEPLOY 0,0,WEST".toList, "REPORT".toList,
        "JUMP".toList, "MOVE".toList] (.running [.text "PIT 1,1".toList, .text "REPORT".toList]) ∧
      (g.serveAll requests).Took 0 0 v none ["DEPLOY 0,0,WEST".toList, "REPORT".toList,
        "JUMP".toList, "MOVE".toList] (.running [.broken]) ∧
      f.outputsOf 0 [.next 0 7] =
        ["0,0,WEST".toList, "Outside Zone: Ignored".toList, "0,0,WEST".toList] := by
  let v : Vehicle := ⟨Settings.standard, State.initial⟩
  let stream : Stream := .given (.text
    "DEPLOY 0,0,WEST\nREPORT\nJUMP\nMOVE\nPIT 1,1\nREPORT".toList) none
  let stream' : Stream := .given (.items [.text "DEPLOY 0,0,WEST".toList, .text "REPORT".toList,
    .text "JUMP".toList, .text "MOVE".toList, .broken]) none
  let lines : List Text := ["DEPLOY 0,0,WEST".toList, "REPORT".toList, "JUMP".toList,
    "MOVE".toList, "PIT 1,1".toList, "REPORT".toList]
  let answers : List (Option Text) := [none, some "0,0,WEST".toList, none,
    some "Outside Zone: Ignored".toList, none, some "0,0,WEST".toList]
  let f : Fleet := ⟨false, [v], [⟨0, .waiting stream, 0⟩]⟩
  let g : Fleet := ⟨true, [v], [⟨0, .waiting stream', 0⟩]⟩
  have held : stream.Holds v.settings none lines := ⟨rfl, by decide +kernel⟩
  have ok : (v.settings.executeAll (v.settings.opening v.state none) lines).2.2 = .ok answers := by
    decide +kernel
  obtain ⟨draws, -⟩ := nexts_draw (f := f) (i := 0) (k := 0) (v := v) rfl rfl held ok
  obtain ⟨sooner, output, later, -, -, drawn, rfl, length, -, took, causal⟩ :=
    (draws [1, 0, 1] (by decide)).1 (by decide)
  have taken : (f.serveAll ([1, 0, 1].map (.next 0))).runs[0]?.map Run.taken = some 4 := by
    decide +kernel
  rw [took.run, length] at taken
  have count : sooner.length + 1 = 4 := Option.some.inj taken
  rw [count] at took causal
  obtain ⟨same, took'⟩ := causal g stream' rfl rfl rfl (by decide +kernel)
  have all := ((draws [7] (by decide)).2 (by decide)).1
  exact ⟨f, g, v, stream, stream', _, rfl, rfl, rfl, rfl, rfl, rfl, by decide +kernel, same, took,
    took', all⟩

end Fleet

end Rover
