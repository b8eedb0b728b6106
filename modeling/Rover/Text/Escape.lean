import Rover.Text.Basic

namespace Rover.Text

def escape : Char := '\x1b'

def between (low high c : Char) : Bool := low ≤ c && c ≤ high

/-- What follows a control sequence after its opening bracket: parameters, intermediates and one
final character. -/
def afterSequence? (s : Text) : Option Text :=
  match (s.dropWhile (between '0' '?')).dropWhile (between ' ' '/') with
  | [] => none
  | c :: rest => if between '@' '~' c then some rest else none

theorem length_dropWhile_le {α : Type} (p : α → Bool) (s : List α) :
    (s.dropWhile p).length ≤ s.length :=
  (List.dropWhile_sublist p).length_le

theorem length_of_afterSequence? {s rest : Text} (h : afterSequence? s = some rest) :
    rest.length < s.length := by
  have first := length_dropWhile_le (between '0' '?') s
  have second := length_dropWhile_le (between ' ' '/') (s.dropWhile (between '0' '?'))
  simp only [afterSequence?] at h
  split at h
  · simp at h
  · rename_i c tail hc
    rw [hc, List.length_cons] at second
    split at h
    · cases h
      omega
    · simp at h

def afterControl? : Text → Option Text
  | a :: b :: rest => if a = escape ∧ b = '[' then afterSequence? rest else none
  | _ => none

theorem length_of_afterControl? {s rest : Text} (h : afterControl? s = some rest) :
    rest.length < s.length := by
  match s with
  | [] => simp [afterControl?] at h
  | [_] => simp [afterControl?] at h
  | a :: b :: tail =>
      simp only [afterControl?] at h
      split at h
      · have := length_of_afterSequence? h
        simp only [List.length_cons]
        omega
      · simp at h

def dropControls : Text → Text
  | [] => []
  | c :: rest =>
      match h : afterControl? (c :: rest) with
      | some after =>
          have := length_of_afterControl? h
          dropControls after
      | none => c :: dropControls rest
termination_by s => s.length
decreasing_by
  · exact this
  · exact Nat.lt_succ_self _

theorem dropControls_of_not_mem {s : Text} (h : escape ∉ s) : dropControls s = s := by
  induction s with
  | nil => simp [dropControls]
  | cons c rest ih =>
      simp only [List.mem_cons, not_or] at h
      have none : afterControl? (c :: rest) = none := by
        cases rest with
        | nil => rfl
        | cons d tail => simp [afterControl?, Ne.symm h.1]
      unfold dropControls
      split
      · simp_all
      · rw [ih h.2]

end Rover.Text
