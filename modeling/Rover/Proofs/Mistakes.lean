import Rover.Proofs.Reading
import Rover.Proofs.Upshot

namespace Rover

structure Mistake where
  number : Nat
  content : Text
  fault : Fault
  deriving DecidableEq, Repr

namespace Mistake

def notice (m : Mistake) : Text :=
  "Skipping line ".toList ++ Numeral.ofNat m.number ++ ":\"".toList ++ m.content
    ++ "\": ".toList ++ m.fault.message

def diagnostic (coloured : Bool) (source : Option Text) (m : Mistake) : Diagnostic :=
  ⟨some ⟨some m.number, some m.content, source⟩, m.fault.issue, coloured⟩

end Mistake

def unnumbered (notice : Text) : Text :=
  (notice.drop "Skipping line ".toList.length).dropWhile Numeral.isDigit

theorem unnumbered_notice (m : Mistake) :
    unnumbered m.notice = ":\"".toList ++ m.content ++ "\": ".toList ++ m.fault.message := by
  have digits : ∀ c ∈ Numeral.ofNat m.number, Numeral.isDigit c = true := fun c =>
    Numeral.isDigit_of_mem_ofNat
  unfold unnumbered Mistake.notice
  simp only [List.append_assoc]
  rw [List.drop_left, List.dropWhile_append_of_pos digits]
  rfl

namespace Vocabulary

variable (v : Vocabulary)

def mistake? (n : Nat) (line : Text) : Option Mistake :=
  match v.read line with
  | .error (.fault f) => some ⟨n, Text.chomp line, f⟩
  | _ => none

def mistakes : Nat → List Text → List Mistake
  | _, [] => []
  | n, line :: rest => (v.mistake? n line).toList ++ mistakes (n + 1) rest

end Vocabulary

namespace Settings

variable (s : Settings) (st : State)

theorem execute_warnings (line : Text) :
    (s.execute st line).warnings =
      (s.vocabulary.mistake? (st.lineNumber + 1) line).toList.map Mistake.notice := by
  change warningsOf (numbered st) line (s.vocabulary.read line) = _
  unfold Vocabulary.mistake?
  cases s.vocabulary.read line with
  | error refusal => cases refusal <;> rfl
  | ok c => rfl

theorem execute_unnumbered (st' : State) (line : Text) :
    (s.execute st line).warnings.map unnumbered =
      (s.execute st' line).warnings.map unnumbered := by
  rw [execute_warnings, execute_warnings]
  unfold Vocabulary.mistake?
  cases s.vocabulary.read line with
  | error refusal => cases refusal <;> simp [unnumbered_notice]
  | ok c => rfl

theorem execute_lineNumber (line : Text) :
    (s.execute st line).state.lineNumber = st.lineNumber + 1 := by
  obtain ⟨isOpen, state⟩ := s.execute_state st line
  rw [state]
  exact (s.deedOf_change st line).lineNumber

theorem execute_source (line : Text) : (s.execute st line).state.source = st.source := by
  obtain ⟨isOpen, state⟩ := s.execute_state st line
  rw [state]
  exact (s.deedOf_change st line).source

theorem lineByLine_warnings {lines : List Text} {outputs : List Text}
    (ok : (s.lineByLine st lines).result = .ok outputs) :
    (s.lineByLine st lines).warnings =
      (s.vocabulary.mistakes (st.lineNumber + 1) lines).map Mistake.notice := by
  induction lines generalizing st outputs with
  | nil => rfl
  | cons line rest ih =>
      obtain ⟨output, later, answered, others, -⟩ := lineByLine_cons_ok ok
      rw [lineByLine, Upshot.andThen_ok (Turn.upshot_of_ok answered)]
      change (s.execute st line).warnings ++
        (s.lineByLine (s.execute st line).state rest).warnings = _
      rw [ih _ others, execute_warnings, execute_lineNumber, Vocabulary.mistakes, List.map_append]

end Settings

end Rover
