import Rover.Proofs.Interleaving
import Rover.Proofs.PitHistory
import Rover.Proofs.Robustness

namespace Rover

/-- A line that was executed, and whether it crashed before it was done; the trace breaks off only
after that. -/
structure Attempt where
  line : Text
  crashed : Bool
  deriving DecidableEq, Repr

namespace Attempt

def survivors (told : List Attempt) : List Text :=
  (told.filter (!Attempt.crashed ·)).map Attempt.line

def Healed (v : Vocabulary) (told : List Attempt) : Prop :=
  ∀ before a after, told = before ++ a :: after → a.crashed = true →
    ∃ b ∈ after, Chain.Opens v b.line

variable {v : Vocabulary} {told : List Attempt} {a : Attempt}

theorem survivors_concat_of_crashed (crashed : a.crashed = true) :
    survivors (told ++ [a]) = survivors told := by
  simp [survivors, List.filter_append, crashed]

theorem survivors_concat_of_not_crashed (fine : a.crashed = false) :
    survivors (told ++ [a]) = survivors told ++ [a.line] := by
  simp [survivors, List.filter_append, fine]

theorem not_healed_of_crashed (crashed : a.crashed = true) : ¬ Healed v (told ++ [a]) := by
  intro healed
  obtain ⟨b, member, -⟩ := healed told a [] rfl crashed
  cases member

theorem healed_concat_iff (fine : a.crashed = false) :
    Healed v (told ++ [a]) ↔ Chain.Opens v a.line ∨ Healed v told := by
  constructor
  · intro healed
    by_cases opens : Chain.Opens v a.line
    · exact .inl opens
    · refine .inr fun before b after split crashed => ?_
      obtain ⟨d, member, deploys⟩ := healed before b (after ++ [a]) (by simp [split]) crashed
      rcases List.mem_append.1 member with member | member
      · exact ⟨d, member, deploys⟩
      · rw [List.mem_singleton.1 member] at deploys
        exact absurd deploys opens
  · intro either before b after split crashed
    rcases List.eq_nil_or_concat after with rfl | ⟨after, d, rfl⟩
    · obtain ⟨-, last⟩ := List.append_inj' split rfl
      obtain rfl := List.head_eq_of_cons_eq last
      rw [crashed] at fine
      cases fine
    · have same : told ++ [a] = (before ++ b :: after) ++ [d] := by simpa using split
      obtain ⟨rfl, last⟩ := List.append_inj' same rfl
      obtain rfl := List.head_eq_of_cons_eq last
      rcases either with opens | healed
      · exact ⟨a, by simp, opens⟩
      · obtain ⟨e, member, deploys⟩ := healed before b after rfl crashed
        exact ⟨e, by simp [member], deploys⟩

end Attempt

namespace Chain

variable {v : Vocabulary} {line : Text} {lines : List Text}

theorem isOpenBefore_concat {isOpen : Bool} (read : IsRead v line)
    (before : isOpenBefore v lines lines.length = .ok isOpen) :
    isOpenBefore v (lines ++ [line]) (lines ++ [line]).length =
      .ok (after isOpen (command? v line)) := by
  have here : (lines ++ [line])[lines.length]? = some line := List.getElem?_concat_length ..
  have same : isOpenBefore v (lines ++ [line]) lines.length = .ok isOpen := by
    rw [← before, isOpenBefore, isOpenBefore, List.take_left, List.take_length]
  rw [List.length_append]
  exact isOpenBefore_succ here read same

end Chain

namespace Settings

variable (s : Settings) (st : State)

theorem after_eq_false_of_crash {c : Command} {crash : Crash} (isOpen : Bool)
    (failed : (s.respond st c).result = .error crash) : Chain.after isOpen (some c) = false := by
  have spared (ok : ∃ output, (s.obey st c).result = .ok output) : False := by
    obtain ⟨output, ok⟩ := ok
    unfold respond at failed
    split at failed
    · split at failed
      · cases failed
      · rw [ok] at failed
        cases failed
    · cases failed
  cases c with
  | deploy cell heading => exact (spared (s.land_ok st cell heading)).elim
  | pit cell => exact (spared (s.dig_ok st cell)).elim
  | _ => rfl

theorem execute_chain_of_crash {line : Text} {crash : Crash}
    (failed : (s.deedOf st line).result = .error crash) :
    (s.execute st line).state.chain = st.chain ∧
      (Chain.IsRead s.vocabulary line →
        ∀ isOpen, Chain.after isOpen (Chain.command? s.vocabulary line) = false) := by
  refine ⟨?_, ?_⟩
  · rw [(s.execute_eq st line).2, failed]
  · intro read isOpen
    unfold deedOf at failed
    unfold Chain.command?
    cases given : s.vocabulary.read line with
    | ok c =>
        rw [given] at failed
        exact s.after_eq_false_of_crash (numbered st) isOpen failed
    | error refusal =>
        rw [given] at failed
        cases refusal with
        | fault f => cases failed
        | mishap m => exact absurd given (read m)

def attempt (line : Text) : Attempt :=
  ⟨line, match (s.execute st line).result with
    | .ok _ => false
    | .error crash => !crash.isUntold⟩

theorem attempt_crashed_iff {line : Text} :
    (s.attempt st line).crashed = true ↔ ∃ crash, (s.deedOf st line).result = .error crash := by
  unfold attempt
  cases result : (s.execute st line).result with
  | ok output => simp [deedOf_eq_ok result]
  | error crash =>
      cases late : crash.isUntold with
      | false => simp [deedOf_eq_error result late, late]
      | true =>
          obtain ⟨why, rfl⟩ := Crash.isUntold_iff.1 late
          obtain ⟨-, -, ⟨output, ok⟩, -⟩ := execute_untold_iff.1 result
          simp [ok, late]

def attempts : State → List Attempt → List Record → List Attempt
  | _, told, [] => told
  | st, told, ⟨_, .line line⟩ :: rest =>
      attempts (s.execute st line).state (told ++ [s.attempt st line]) rest
  | st, _, ⟨_, .reset⟩ :: rest => attempts st.reset [] rest

variable {s st}

variable (s) in
/-- The chain is found by looking back over the lines that did not crash, and stays right as long as
it is closed or each line that crashed has a deployment after it. -/
structure Tracks (isOpen : Bool) (told : List Attempt) : Prop where
  survivors : Chain.isOpenBefore s.vocabulary (Attempt.survivors told)
    (Attempt.survivors told).length = .ok isOpen
  whole : (∀ a ∈ told, Chain.IsRead s.vocabulary a.line) →
    ∃ right, Chain.isOpenBefore s.vocabulary (told.map Attempt.line)
        (told.map Attempt.line).length = .ok right ∧
      (right = true ↔ isOpen = true ∧ Attempt.Healed s.vocabulary told)

theorem tracks_nil : s.Tracks false [] :=
  ⟨rfl, fun _ => ⟨false, rfl, by simp⟩⟩

theorem Tracks.execute {told : List Attempt} (tracks : s.Tracks st.chain told) (line : Text) :
    s.Tracks (s.execute st line).state.chain (told ++ [s.attempt st line]) := by
  have told_line : (s.attempt st line).line = line := rfl
  cases result : (s.deedOf st line).result with
  | error crash =>
      have crashed : (s.attempt st line).crashed = true :=
        (s.attempt_crashed_iff st).2 ⟨crash, result⟩
      obtain ⟨kept, closes⟩ := s.execute_chain_of_crash st result
      rw [kept]
      refine ⟨?_, ?_⟩
      · rw [Attempt.survivors_concat_of_crashed crashed]
        exact tracks.survivors
      · intro read
        obtain ⟨sooner, here⟩ := List.forall_mem_append.1 read
        have here := here (s.attempt st line) List.mem_cons_self
        obtain ⟨right, back, -⟩ := tracks.whole sooner
        have next := Chain.isOpenBefore_concat here back
        rw [told_line] at here next
        rw [closes here] at next
        refine ⟨false, ?_, ?_⟩
        · rw [List.map_append]
          exact next
        · simp [Attempt.not_healed_of_crashed crashed]
  | ok output =>
      have fine : (s.attempt st line).crashed = false := by
        rw [Bool.eq_false_iff, ne_eq, attempt_crashed_iff]
        rintro ⟨crash, failed⟩
        cases failed.symm.trans result
      have here := isRead_of_deed result
      rw [execute_chain result]
      refine ⟨?_, ?_⟩
      · rw [Attempt.survivors_concat_of_not_crashed fine]
        exact Chain.isOpenBefore_concat here tracks.survivors
      · intro read
        obtain ⟨right, back, iff⟩ := tracks.whole (List.forall_mem_append.1 read).1
        have next := Chain.isOpenBefore_concat here back
        refine ⟨Chain.after right (Chain.command? s.vocabulary line), ?_, ?_⟩
        · rw [List.map_append]
          exact next
        · rw [Attempt.healed_concat_iff fine, told_line, Chain.after_eq_true_iff,
            Chain.after_eq_true_iff, iff]
          tauto

theorem Tracks.carry {told : List Attempt} (tracks : s.Tracks st.chain told)
    (history : List Record) :
    s.Tracks (s.carry st history).chain (s.attempts st told history) := by
  induction history generalizing st told with
  | nil => exact tracks
  | cons r rest ih =>
      obtain ⟨run, act⟩ := r
      cases act with
      | line line => exact ih (tracks.execute line)
      | reset =>
          have anew : s.Tracks st.reset.chain [] := tracks_nil
          exact ih anew

end Settings

end Rover
