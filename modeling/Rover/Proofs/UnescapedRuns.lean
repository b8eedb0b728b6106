import Rover.Proofs.Interleaving
import Rover.Proofs.Unescaped

namespace Rover

open Text

def Item.NoEscape (e : Encoding) : Item → Prop
  | .text line => line.NoEscape
  | .raw bytes => ∀ line, e.decode bytes = .ok line → line.NoEscape
  | .unreadable cause => cause.NoEscape
  | .broken => True

def Stream.NoEscape (e : Encoding) : Stream → Prop
  | .given input source => (∀ t ∈ source, t.NoEscape) ∧ ∀ item ∈ input.toItems, item.NoEscape e
  | .file name content => name.NoEscape ∧
      ∀ raw, content = .ok raw → ∀ line, .text line ∈ e.fileItems raw → line.NoEscape

def Feed.NoEscape (e : Encoding) : Feed → Prop
  | .waiting stream => stream.NoEscape e
  | .running rest => ∀ item ∈ rest, item.NoEscape e
  | .spent => True

def Ending.diagnostic? : Ending → Option Diagnostic
  | .stopped (.unreadable d) => some d
  | _ => none

structure Stretch.NoEscape (e : Encoding) (x : Stretch) : Prop where
  state : x.state.NoEscape
  log : ∀ entry ∈ x.log, entry.NoEscape
  rest : ∀ item ∈ x.rest, item.NoEscape e
  diagnostic : ∀ d, x.ending.diagnostic? = some d → d.NoEscape

theorem Stretch.NoEscape.preceded {e : Encoding} {x : Stretch} (clear : x.NoEscape e)
    {entries : List Entry} (each : ∀ entry ∈ entries, entry.NoEscape) :
    (x.preceded entries).NoEscape e where
  state := clear.state
  log := List.forall_mem_append.2 ⟨each, clear.log⟩
  rest := clear.rest
  diagnostic := clear.diagnostic

theorem Encoding.fileItems_noEscape {e : Encoding} {raw : Bytes}
    (lines : ∀ line, .text line ∈ e.fileItems raw → line.NoEscape) :
    ∀ item ∈ e.fileItems raw, item.NoEscape e := by
  have flawed : ∀ item ∈ e.fileItems raw,
      (∃ line, item = .text line) ∨ ∃ flaw : Flaw, item = .unreadable flaw.text := by
    intro item member
    simp only [fileItems] at member
    split at member
    · obtain ⟨line, -, rfl⟩ := List.mem_map.1 member
      exact .inl ⟨line, rfl⟩
    · rcases List.mem_append.1 member with member | member
      · obtain ⟨line, -, rfl⟩ := List.mem_map.1 member
        exact .inl ⟨line, rfl⟩
      · exact .inr ⟨_, List.mem_singleton.1 member⟩
  intro item member
  rcases flawed item member with ⟨line, rfl⟩ | ⟨flaw, rfl⟩
  · exact lines line member
  · exact flaw.noEscape_text

namespace Settings

variable {s : Settings} (clear : s.NoEscape) {st : State} (named : st.NoEscape)

theorem noEscape_of_lineOf {item : Item} (plain : item.NoEscape s.encoding) {line : Text}
    (holds : s.lineOf item = .ok line) : line.NoEscape := by
  cases item with
  | text words =>
      obtain rfl := Except.ok.inj holds
      exact plain
  | raw bytes =>
      simp only [lineOf] at holds
      split at holds
      · rename_i words decoded
        obtain rfl := Except.ok.inj holds
        exact plain words decoded
      · cases holds
  | unreadable cause => cases holds
  | broken => cases holds

theorem noEscape_of_unread {item : Item} (plain : item.NoEscape s.encoding) {cause : Text}
    (bad : s.lineOf item = .error (some cause)) : cause.NoEscape := by
  cases item with
  | text words => cases bad
  | raw bytes =>
      simp only [lineOf] at bad
      split at bad
      · cases bad
      · rename_i flaw refused
        obtain rfl := Option.some.inj (Except.error.inj bad)
        exact flaw.noEscape_text
  | unreadable other =>
      obtain rfl := Option.some.inj (Except.error.inj bad)
      exact plain
  | broken => cases bad

theorem announce_noEscape {title : Text} (header : title.NoEscape) :
    ∀ entry ∈ s.announce title, entry.NoEscape := by
  intro entry member
  simp only [announce] at member
  split at member
  · rw [List.mem_singleton.1 member]
    exact Styled.noEscape_entry header (show (Styled.text []).NoEscape from noEscape_nil) _ _ _
  · cases member

include clear

theorem NoEscape.advanceBy (coloured : Bool) (quota : Nat) {items : List Item}
    (plain : ∀ item ∈ items, item.NoEscape s.encoding) (named : st.NoEscape) :
    (s.advanceBy coloured quota st items).NoEscape s.encoding := by
  -- the state is carried along, since the source that it names is told by the next trace
  fun_induction Settings.advanceBy s coloured quota st items with
  | case1 st items => exact ⟨named, by simp, plain, fun d ended => by cases ended⟩
  | case2 quota st =>
      exact ⟨named, announce_noEscape (by decide), by simp, fun d ended => by cases ended⟩
  | case3 quota st item rest cause bad =>
      obtain ⟨here, later⟩ := List.forall_mem_cons.1 plain
      refine ⟨named, by simp, later, fun d ended => ?_⟩
      cases ended
      exact Diagnostic.noEscape_unreadable coloured (by simp) named
        (noEscape_of_unread here bad)
  | case4 quota st item rest bad =>
      exact ⟨named, by simp, (List.forall_mem_cons.1 plain).2, fun d ended => by cases ended⟩
  | case5 quota st item rest line holds turn c failed =>
      obtain ⟨here, later⟩ := List.forall_mem_cons.1 plain
      obtain ⟨entries, -, state⟩ := clear.execute st (noEscape_of_lineOf here holds) named
      exact ⟨state, entries, later, fun d ended => by cases ended⟩
  | case6 quota st item rest line holds turn ok ih =>
      obtain ⟨here, later⟩ := List.forall_mem_cons.1 plain
      obtain ⟨entries, -, state⟩ := clear.execute st (noEscape_of_lineOf here holds) named
      exact (ih later state).preceded entries
  | case7 quota st item rest line holds turn output ok ih =>
      obtain ⟨here, later⟩ := List.forall_mem_cons.1 plain
      obtain ⟨entries, said, state⟩ :=
        clear.execute st (noEscape_of_lineOf here holds) named
      apply (ih later state).preceded
      rw [List.forall_mem_append]
      exact ⟨entries, List.forall_mem_singleton.2 (said output ok)⟩

theorem NoEscape.executeAll {lines : List Text} (plain : ∀ line ∈ lines, line.NoEscape)
    (named : st.NoEscape) :
    (s.executeAll st lines).1.NoEscape ∧
      ∀ entry ∈ (s.executeAll st lines).2.1, entry.NoEscape := by
  induction lines generalizing st with
  | nil => exact ⟨named, by simp [Settings.executeAll]⟩
  | cons line rest ih =>
      obtain ⟨here, later⟩ := List.forall_mem_cons.1 plain
      obtain ⟨entries, -, state⟩ := clear.execute st here named
      simp only [Settings.executeAll]
      cases (s.execute st line).result with
      | error c => exact ⟨state, entries⟩
      | ok output =>
          obtain ⟨after, others⟩ := ih later state
          refine ⟨after, ?_⟩
          rw [List.forall_mem_append]
          exact ⟨entries, others⟩

end Settings

namespace Feed

variable {s : Settings} (clear : s.NoEscape) {st : State} {feed : Feed}

include clear

theorem noEscape_begin (coloured : Bool) (quota : Nat) {items : List Item}
    {source : Option Text} (plain : ∀ item ∈ items, item.NoEscape s.encoding)
    (named : ∀ t ∈ source, t.NoEscape) :
    (begin s coloured quota st items source).NoEscape s.encoding := by
  have opened : (s.opening st source).NoEscape := named
  have advanced := clear.advanceBy coloured quota plain opened
  refine ⟨advanced.state, ?_, advanced.rest, advanced.diagnostic⟩
  simp only [begin]
  rw [List.forall_mem_append]
  exact ⟨Settings.announce_noEscape (by decide), advanced.log⟩

theorem noEscape_run (coloured : Bool) (quota : Nat) (plain : feed.NoEscape s.encoding)
    (named : st.NoEscape) : (feed.run s coloured quota st).NoEscape s.encoding := by
  cases feed with
  | spent => exact ⟨named, by simp [run], by simp [run], fun d ended => by cases ended⟩
  | running rest => exact clear.advanceBy coloured quota plain named
  | waiting stream =>
      cases stream with
      | given input source => exact noEscape_begin clear coloured quota plain.2 plain.1
      | file name content =>
          have named' : ∀ t ∈ some name, t.NoEscape := by
            intro t found
            obtain rfl := Option.some.inj found
            exact plain.1
          cases content with
          | ok raw =>
              have lines := Encoding.fileItems_noEscape (plain.2 raw rfl)
              exact noEscape_begin clear coloured quota lines named'
          | error e =>
              refine ⟨named, by simp [run], by simp [run], fun d ended => ?_⟩
              have ended : (Ending.stopped (unopened coloured name e)).diagnostic? = some d := ended
              simp only [unopened] at ended
              split at ended
              · rename_i cause told
                obtain rfl := Option.some.inj ended
                exact Diagnostic.noEscape_unreadable coloured (by simp) named'
                  (FileError.noEscape_text plain.1 told)
              · cases ended

theorem noEscape_resume (coloured : Bool) (quota : Nat) (plain : feed.NoEscape s.encoding)
    (named : st.NoEscape) :
    (feed.resume s coloured quota st).1.NoEscape s.encoding ∧
      (feed.resume s coloured quota st).2.NoEscape s.encoding := by
  by_cases none_asked : quota = 0
  · subst none_asked
    exact ⟨⟨named, by simp [resume], by simp [resume], fun d ended => by cases ended⟩, plain⟩
  · have ran := noEscape_run clear coloured quota plain named
    rw [resume_of_ne_zero s coloured st feed none_asked]
    refine ⟨ran, ?_⟩
    simp only [after]
    split
    · exact ran.rest
    · trivial

end Feed

end Rover
