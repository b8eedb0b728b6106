import Rover.Proofs.Cutting
import Rover.Proofs.Reading

namespace Rover

namespace Numeral

theorem Spells.clear {s : Text} {n : Int} (spelled : Spells s n) :
    ∀ c ∈ s, Text.isBlank c = false ∧ c ≠ ',' :=
  clear_of_isNumeral (spells_iff.1 spelled).1

theorem Spells.ne_nil {s : Text} {n : Int} (spelled : Spells s n) : s ≠ [] := by
  rintro rfl
  exact (spells_iff.1 spelled).1.1 rfl

end Numeral

theorem Heading.clear_label (h : Heading) : ∀ c ∈ h.label, Text.isBlank c = false ∧ c ≠ ',' := by
  have each : h.label.all (fun c => !Text.isBlank c && c != ',') = true := by cases h <;> decide
  simpa using each

namespace Slot

theorem Spells.clear {slot : Slot} {s : Text} {a : Argument} (spelled : slot.Spells s a) :
    ∀ c ∈ s, Text.isBlank c = false ∧ c ≠ ',' := by
  cases spelled with
  | number spelled => exact spelled.clear
  | heading h => exact h.clear_label

theorem Spells.ne_nil {slot : Slot} {s : Text} {a : Argument} (spelled : slot.Spells s a) :
    s ≠ [] := by
  cases spelled with
  | number spelled => exact spelled.ne_nil
  | heading h => cases h <;> decide

variable {slots : List Slot} {given : List Text} {arguments : List Argument}

theorem SpellsAll.clear (spelled : SpellsAll slots given arguments) :
    ∀ s ∈ given, ∀ c ∈ s, Text.isBlank c = false ∧ c ≠ ',' := by
  induction spelled with
  | nil => simp
  | cons first others ih => exact List.forall_mem_cons.2 ⟨first.clear, ih⟩

theorem SpellsAll.intercalate_ne_nil (spelled : SpellsAll slots given arguments)
    (some : given ≠ []) : [','].intercalate given ≠ [] := by
  cases spelled with
  | nil => exact absurd rfl some
  | @cons slot s a slots given arguments first others =>
      obtain ⟨c, rest, rfl⟩ := List.exists_cons_of_ne_nil first.ne_nil
      cases given <;> simp [List.intercalate]

end Slot

/-- The lines that stand for a command: blanks may stand at the ends, and stand between the keyword
and the arguments, which a single comma parts. -/
inductive Command.Spells : Text → Command → Prop
  | bare {c : Command} {u v : Text} (plain : c ∈ [.move, .left, .right, .report])
      (before : ∀ d ∈ u, Text.isBlank d = true) (behind : ∀ d ∈ v, Text.isBlank d = true) :
      Spells (u ++ c.keyword ++ v) c
  | pit {u w a b v : Text} {x y : Int} (before : ∀ d ∈ u, Text.isBlank d = true)
      (between : ∀ d ∈ w, Text.isBlank d = true) (apart : w ≠ []) (first : Numeral.Spells a x)
      (second : Numeral.Spells b y) (behind : ∀ d ∈ v, Text.isBlank d = true) :
      Spells (u ++ "PIT".toList ++ w ++ a ++ [','] ++ b ++ v) (.pit ⟨x, y⟩)
  | deploy {u w a b v : Text} {x y : Int} {h : Heading} (before : ∀ d ∈ u, Text.isBlank d = true)
      (between : ∀ d ∈ w, Text.isBlank d = true) (apart : w ≠ []) (first : Numeral.Spells a x)
      (second : Numeral.Spells b y) (behind : ∀ d ∈ v, Text.isBlank d = true) :
      Spells (u ++ "DEPLOY".toList ++ w ++ a ++ [','] ++ b ++ [','] ++ h.label ++ v)
        (.deploy ⟨x, y⟩ h)

theorem Verb.solid_keyword {verb : Verb} (standing : verb ∈ standard) :
    verb.keyword ≠ [] ∧ ∀ c ∈ verb.keyword, Text.isBlank c = false := by
  have each : ∀ verb ∈ standard, verb.keyword ≠ [] ∧
      verb.keyword.all (!Text.isBlank ·) = true := by
    decide
  simpa using each verb standing

namespace Vocabulary

variable {line : Text} {c : Command}

theorem read_standard_of_phrase {verb : Verb} {arguments : List Argument} {given : List Text}
    (standing : verb ∈ Verb.standard) (phrase : Phrase.ofLine line = ⟨verb.keyword, given⟩)
    (spelled : Slot.SpellsAll verb.shape given arguments) :
    standard.read line = .ok (verb.command arguments) :=
  read_standard_ok_iff.2 ⟨verb, standing, arguments, by rw [phrase], by rwa [phrase], rfl⟩

theorem read_standard_of_arguments {verb : Verb} {arguments : List Argument} {given : List Text}
    {u w v : Text} (standing : verb ∈ Verb.standard) (before : ∀ d ∈ u, Text.isBlank d = true)
    (between : ∀ d ∈ w, Text.isBlank d = true) (apart : w ≠ []) (some : given ≠ [])
    (spelled : Slot.SpellsAll verb.shape given arguments)
    (behind : ∀ d ∈ v, Text.isBlank d = true) :
    standard.read (u ++ (verb.keyword ++ (w ++ [','].intercalate given)) ++ v) =
      .ok (verb.command arguments) := by
  obtain ⟨keyword_ne, solid⟩ := Verb.solid_keyword standing
  exact read_standard_of_phrase standing
    (Phrase.ofLine_arguments before solid keyword_ne between apart some spelled.clear
      (spelled.intercalate_ne_nil some) behind) spelled

theorem read_standard_of_spells (spelled : c.Spells line) : standard.read line = .ok c := by
  cases spelled with
  | bare plain before behind =>
      have phrase (verb : Verb) (standing : verb ∈ Verb.standard) :=
        Phrase.ofLine_bare before (Verb.solid_keyword standing).2 behind
      simp only [List.mem_cons, List.not_mem_nil, or_false] at plain
      rcases plain with rfl | rfl | rfl | rfl
      · exact read_standard_of_phrase (by decide) (phrase .move (by decide)) .nil
      · exact read_standard_of_phrase (by decide) (phrase .left (by decide)) .nil
      · exact read_standard_of_phrase (by decide) (phrase .right (by decide)) .nil
      · exact read_standard_of_phrase (by decide) (phrase .report (by decide)) .nil
  | @pit u w a b v x y before between apart first second behind =>
      have spelled : Slot.SpellsAll Verb.pit.shape [a, b] [.number x, .number y] :=
        .cons (.number first) (.cons (.number second) .nil)
      have read := read_standard_of_arguments (by decide) before between apart (by simp) spelled
        behind
      have keyword : Verb.pit.keyword = "PIT".toList := rfl
      simpa [List.intercalate, keyword, Verb.command] using read
  | @deploy u w a b v x y h before between apart first second behind =>
      have spelled : Slot.SpellsAll Verb.deploy.shape [a, b, h.label]
          [.number x, .number y, .heading h] :=
        .cons (.number first) (.cons (.number second) (.cons (.heading h) .nil))
      have read := read_standard_of_arguments (by decide) before between apart (by simp) spelled
        behind
      have keyword : Verb.deploy.keyword = "DEPLOY".toList := rfl
      simpa [List.intercalate, keyword, Verb.command] using read

theorem spells_of_read_standard (ok : standard.read line = .ok c) : c.Spells line := by
  obtain ⟨verb, standing, arguments, keyword, spelled, rfl⟩ := read_standard_ok_iff.1 ok
  obtain ⟨u, v, before, behind, spelling⟩ := Phrase.exists_spelling line
  generalize (Phrase.ofLine line).arguments = given at *
  rw [keyword] at spelling
  have bare {c : Command} (plain : c ∈ [.move, .left, .right, .report]) (none : given = [])
      (same : verb.keyword = c.keyword) : c.Spells line := by
    obtain ⟨-, rfl⟩ | ⟨some, -⟩ := spelling
    · rw [same]
      exact .bare plain before behind
    · exact absurd none some
  simp only [Verb.standard, List.mem_cons, List.not_mem_nil, or_false] at standing
  rcases standing with rfl | rfl | rfl | rfl | rfl | rfl
  · obtain ⟨none, -⟩ | ⟨-, w, between, apart, rfl⟩ := spelling
    · rw [none] at spelled
      cases spelled
    · obtain _ | ⟨⟨first⟩, _ | ⟨⟨second⟩, _ | ⟨⟨_⟩, _ | _⟩⟩⟩ := spelled
      rename_i h
      have line := Command.Spells.deploy (h := h) before between apart first second behind
      have keyword : Verb.deploy.keyword = "DEPLOY".toList := rfl
      simpa [List.intercalate, keyword, Verb.command] using line
  · obtain ⟨none, -⟩ | ⟨-, w, between, apart, rfl⟩ := spelling
    · rw [none] at spelled
      cases spelled
    · obtain _ | ⟨⟨first⟩, _ | ⟨⟨second⟩, _ | _⟩⟩ := spelled
      have line := Command.Spells.pit before between apart first second behind
      have keyword : Verb.pit.keyword = "PIT".toList := rfl
      simpa [List.intercalate, keyword, Verb.command] using line
  all_goals
    cases spelled
    exact bare (by decide) rfl rfl

/-- The standard vocabulary reads the lines of the grammar, and no others. -/
theorem read_standard_eq_ok_iff (line : Text) (c : Command) :
    standard.read line = .ok c ↔ c.Spells line :=
  ⟨spells_of_read_standard, read_standard_of_spells⟩

end Vocabulary

end Rover
