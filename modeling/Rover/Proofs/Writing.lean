import Rover.Proofs.Grammar
import Rover.Zone

namespace Rover

namespace Numeral

theorem isDigits_ofNat {n : Nat} (short : (ofNat n).length ≤ maxDigits) : IsDigits (ofNat n) where
  ne_nil := Nat.toDigits_ne_nil
  digits _ := isDigit_of_mem_ofNat
  short := short

theorem spells_ofInt {n : Int} (writable : Writable n) : Spells (ofInt n) n := by
  cases n with
  | ofNat n =>
      have spelled := Spells.bare (isDigits_ofNat writable)
      rw [ofNat, Nat.ofDigitChars_ten_toDigits] at spelled
      exact spelled
  | negSucc n =>
      have spelled := Spells.minus (isDigits_ofNat writable)
      rw [Int.natAbs_negSucc, ofNat, Nat.ofDigitChars_ten_toDigits] at spelled
      exact spelled

theorem IsDigits.lt {s : Text} (digits : IsDigits s) :
    Nat.ofDigitChars 10 s 0 < 10 ^ maxDigits := by
  have small := ofDigitChars_lt fun c member => exists_digitChar (digits.digits c member)
  have most : 10 ^ s.length ≤ 10 ^ maxDigits := Nat.pow_le_pow_right (by decide) digits.short
  exact Nat.lt_of_lt_of_le small most

theorem Spells.writable {s : Text} {n : Int} (spelled : Spells s n) : Writable n := by
  apply writable_iff.2
  cases spelled with
  | bare digits => simpa using digits.lt
  | plus digits => simpa using digits.lt
  | minus digits => simpa using digits.lt

end Numeral

/-- One of the six standard commands, with numbers that can be written. -/
def Command.IsWritable : Command → Prop
  | .deploy cell _ => cell.IsWritable
  | .pit cell => cell.IsWritable
  | .custom _ _ => False
  | _ => True

instance : DecidablePred Command.IsWritable
  | .deploy cell _ => inferInstanceAs (Decidable cell.IsWritable)
  | .pit cell => inferInstanceAs (Decidable cell.IsWritable)
  | .custom _ _ => isFalse id
  | .move | .left | .right | .report => isTrue trivial

variable {c : Command}

namespace Command

theorem spells_text (writable : c.IsWritable) : c.Spells c.text := by
  have none : ∀ d ∈ [], Text.isBlank d = true := fun d member => absurd member List.not_mem_nil
  have blank : ∀ d ∈ [' '], Text.isBlank d = true := by simp [Text.isBlank]
  have bare (plain : c ∈ [.move, .left, .right, .report]) (alone : c.arguments = []) :
      c.Spells c.text := by
    have line := Spells.bare plain none none
    rw [List.nil_append, List.append_nil] at line
    rwa [text, if_pos alone]
  cases c with
  | deploy cell heading =>
      have line := Spells.deploy (h := heading) none blank (List.cons_ne_nil _ _)
        (Numeral.spells_ofInt writable.1) (Numeral.spells_ofInt writable.2) none
      simp only [List.append_assoc] at line
      exact line
  | pit cell =>
      have line := Spells.pit none blank (List.cons_ne_nil _ _)
        (Numeral.spells_ofInt writable.1) (Numeral.spells_ofInt writable.2) none
      simp only [List.append_assoc] at line
      exact line
  | custom keyword arguments => exact writable.elim
  | _ => exact bare (by simp) rfl

theorem Spells.padded {line u v : Text} (spelled : c.Spells line)
    (before : ∀ d ∈ u, Text.isBlank d = true) (behind : ∀ d ∈ v, Text.isBlank d = true) :
    c.Spells (u ++ line ++ v) := by
  have join {s t : Text} (all : ∀ d ∈ s, Text.isBlank d = true)
      (others : ∀ d ∈ t, Text.isBlank d = true) : ∀ d ∈ s ++ t, Text.isBlank d = true := by
    intro d member
    exact (List.mem_append.1 member).elim (all d) (others d)
  cases spelled with
  | bare plain front back =>
      have longer := Spells.bare plain (join before front) (join back behind)
      simpa only [List.append_assoc] using longer
  | pit front between apart first second back =>
      have longer := Spells.pit (join before front) between apart first second (join back behind)
      simpa only [List.append_assoc] using longer
  | @deploy _ _ _ _ _ _ _ h front between apart first second back =>
      have longer := Spells.deploy (h := h) (join before front) between apart first second
        (join back behind)
      simpa only [List.append_assoc] using longer

theorem Spells.writable {line : Text} (spelled : c.Spells line) : c.IsWritable := by
  cases spelled with
  | bare plain before behind =>
      simp only [List.mem_cons, List.not_mem_nil, or_false] at plain
      rcases plain with rfl | rfl | rfl | rfl <;> trivial
  | pit before between apart first second behind => exact ⟨first.writable, second.writable⟩
  | deploy before between apart first second behind => exact ⟨first.writable, second.writable⟩

end Command

theorem Verb.of_command_deploy {verb : Verb} {arguments : List Argument} {cell : Cell}
    {heading : Heading} (made : verb.command arguments = .deploy cell heading) :
    verb = .deploy ∧ arguments = [.number cell.x, .number cell.y, .heading heading] := by
  unfold command at made
  split at made <;> cases made
  exact ⟨rfl, rfl⟩

namespace Vocabulary

theorem isWritable_of_read_deploy {v : Vocabulary} {line : Text} {cell : Cell} {heading : Heading}
    (read : v.read line = .ok (.deploy cell heading)) : cell.IsWritable := by
  obtain ⟨k, verb, arguments, -, -, spelled, made⟩ := read_eq_ok_iff.1 read
  obtain ⟨rfl, rfl⟩ := Verb.of_command_deploy made.symm
  generalize (Phrase.ofLine line).arguments = given at spelled
  obtain _ | ⟨⟨first⟩, _ | ⟨⟨second⟩, -⟩⟩ := spelled
  exact ⟨first.writable, second.writable⟩

theorem read_text (writable : c.IsWritable) : standard.read c.text = .ok c :=
  read_standard_of_spells (Command.spells_text writable)

theorem isWritable_of_read {line : Text} (ok : standard.read line = .ok c) : c.IsWritable :=
  (spells_of_read_standard ok).writable

/-- A command that is written is read back, blanks around it or not; what is read is written and
read again as it is; and no two commands are written alike. -/
theorem read_written :
    (∀ c : Command, c.IsWritable → ∀ u v : Text, (∀ d ∈ u, Text.isBlank d = true) →
      (∀ d ∈ v, Text.isBlank d = true) → standard.read (u ++ c.text ++ v) = .ok c) ∧
    (∀ (line : Text) (c : Command), standard.read line = .ok c →
      standard.read c.text = .ok c ∧ ∀ d, standard.read c.text = .ok d → d.text = c.text) ∧
    ∀ c d : Command, c.IsWritable → d.IsWritable → c.text = d.text → c = d := by
  refine ⟨?_, ?_, ?_⟩
  · intro c writable u v before behind
    exact read_standard_of_spells ((Command.spells_text writable).padded before behind)
  · intro line c ok
    have again := read_text (isWritable_of_read ok)
    refine ⟨again, ?_⟩
    intro d reread
    rw [Except.ok.inj (again.symm.trans reread)]
  · intro c d writable writable' same
    have read := read_text writable
    rw [same, read_text writable'] at read
    exact (Except.ok.inj read).symm

theorem read_written_padded :
    ∃ (c d : Command) (u v line : Text),
      c.text = "DEPLOY -3,40,WEST".toList ∧ u = "\t ".toList ∧ v = "\r\n".toList ∧
      standard.read (u ++ c.text ++ v) = .ok c ∧
      line = " PIT +007,-0 ".toList ∧ standard.read line = .ok d ∧
      d.text = "PIT 7,0".toList ∧ standard.read d.text = .ok d ∧ c.text ≠ d.text := by
  let c : Command := .deploy ⟨-3, 40⟩ .west
  let d : Command := .pit ⟨7, 0⟩
  have writable : c.IsWritable := by decide
  have writable' : d.IsWritable := by decide
  have ok : standard.read " PIT +007,-0 ".toList = .ok d := by decide +kernel
  obtain ⟨padded, again, injective⟩ := read_written
  refine ⟨c, d, _, _, _, by decide, rfl, rfl, ?_, rfl, ok, by decide, (again _ d ok).1, ?_⟩
  · apply padded c writable
    · exact List.all_eq_true.1 (by decide)
    · exact List.all_eq_true.1 (by decide)
  · intro same
    exact absurd (injective c d writable writable' same) (by decide)

end Vocabulary

end Rover
