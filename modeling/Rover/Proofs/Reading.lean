import Mathlib.Algebra.Group.Nat.Defs
import Rover.Proofs.Recognition

namespace Rover

namespace Numeral

structure IsDigits (s : Text) : Prop where
  ne_nil : s ≠ []
  digits : ∀ c ∈ s, isDigit c = true
  short : s.length ≤ maxDigits

/-- The texts that stand for a number: its decimal digits, perhaps behind a sign. -/
inductive Spells : Text → Int → Prop
  | bare {s : Text} (digits : IsDigits s) : Spells s (Nat.ofDigitChars 10 s 0)
  | plus {s : Text} (digits : IsDigits s) : Spells ('+' :: s) (Nat.ofDigitChars 10 s 0)
  | minus {s : Text} (digits : IsDigits s) : Spells ('-' :: s) (-(Nat.ofDigitChars 10 s 0 : Int))

theorem IsDigits.sign {s : Text} (digits : IsDigits s) : sign s = [] := by
  obtain ⟨c, rest, rfl⟩ := List.exists_cons_of_ne_nil digits.ne_nil
  exact sign_of_isDigit (digits.digits c List.mem_cons_self)

theorem spells_iff {s : Text} {n : Int} :
    Spells s n ↔ IsNumeral s ∧ Readable s ∧ value s = n := by
  constructor
  · intro spelled
    cases spelled with
    | bare digits =>
        have all : unsigned s = s := by rw [unsigned, digits.sign, List.length_nil, List.drop_zero]
        refine ⟨⟨?_, ?_⟩, ?_, ?_⟩
        · rw [all]
          exact digits.ne_nil
        · rw [all]
          exact digits.digits
        · rw [Readable, all]
          exact digits.short
        · rw [value, all, signed, digits.sign]
          rfl
    | plus digits => exact ⟨⟨digits.ne_nil, digits.digits⟩, digits.short, rfl⟩
    | minus digits => exact ⟨⟨digits.ne_nil, digits.digits⟩, digits.short, rfl⟩
  · rintro ⟨⟨ne_nil, digits⟩, short, rfl⟩
    have parts := sign_append_unsigned s
    have digits : IsDigits (unsigned s) := ⟨ne_nil, digits, short⟩
    unfold value signed
    revert parts
    fun_cases Numeral.sign s with
    | case1 rest => exact fun _ => .plus digits
    | case2 rest => exact fun _ => .minus digits
    | case3 =>
        intro parts
        rw [List.nil_append] at parts
        rw [parts] at digits ⊢
        exact .bare digits

theorem exists_digitChar {c : Char} (digit : isDigit c = true) :
    ∃ d < 10, c = Nat.digitChar d := by
  simp only [isDigit, Bool.and_eq_true, decide_eq_true_eq] at digit
  have bounds : 48 ≤ c.toNat ∧ c.toNat ≤ 57 := digit
  refine ⟨c.toNat - 48, by omega, ?_⟩
  apply Char.toNat_inj.1
  rw [Nat.toNat_digitChar_of_lt_ten (by omega)]
  omega

theorem isDigit_of_mem_ofNat {n : Nat} {c : Char} (member : c ∈ ofNat n) :
    isDigit c = true := by
  have digit := Nat.isDigit_of_mem_toDigits (by decide) (by decide) member
  simp only [Char.isDigit, Bool.and_eq_true, decide_eq_true_eq] at digit
  simp only [isDigit, Bool.and_eq_true, decide_eq_true_eq]
  exact digit

theorem ofDigitChars_lt {digits : Text} (each : ∀ c ∈ digits, ∃ d < 10, c = Nat.digitChar d) :
    Nat.ofDigitChars 10 digits 0 < 10 ^ digits.length := by
  induction digits with
  | nil => simp
  | cons c others ih =>
      obtain ⟨d, small, rfl⟩ := each c List.mem_cons_self
      have rest := ih fun c member => each c (List.mem_cons_of_mem _ member)
      have head : 10 ^ others.length * d ≤ 10 ^ others.length * 9 :=
        Nat.mul_le_mul_left _ (by omega)
      rw [Nat.ofDigitChars_cons_digitChar_of_lt_ten small, Nat.ofDigitChars_eq_ofDigitChars_zero,
        List.length_cons, Nat.pow_succ, Nat.mul_zero, Nat.zero_add]
      omega

theorem writable_iff {n : Int} : Writable n ↔ n.natAbs < 10 ^ maxDigits :=
  Nat.length_toDigits_le_iff (by decide) (by decide)

theorem writable_of_lt {n : Int} (low : 0 ≤ n) (high : n < (10 ^ maxDigits : Nat)) :
    Writable n := by
  apply writable_iff.2
  omega

end Numeral

namespace Slot

def Accepts : Slot → Text → Prop
  | .number, s => Numeral.IsNumeral s ∧ Numeral.Readable s
  | .heading, s => ∃ h : Heading, h.label = s

/-- A numeral that is too long stands where a number should, and nothing before it is wrong. -/
def Overlong : List Slot → List Text → Prop
  | slot :: slots, s :: others =>
      slot = .number ∧ Numeral.IsNumeral s ∧ ¬ Numeral.Readable s ∨
        slot.Accepts s ∧ Overlong slots others
  | _, _ => False

inductive Spells : Slot → Text → Argument → Prop
  | number {s : Text} {n : Int} (spelled : Numeral.Spells s n) : Spells .number s (.number n)
  | heading (h : Heading) : Spells .heading h.label (.heading h)

inductive SpellsAll : List Slot → List Text → List Argument → Prop
  | nil : SpellsAll [] [] []
  | cons {slot : Slot} {s : Text} {a : Argument} {slots : List Slot} {given : List Text}
      {arguments : List Argument} (first : slot.Spells s a)
      (others : SpellsAll slots given arguments) :
      SpellsAll (slot :: slots) (s :: given) (a :: arguments)

theorem accepts_iff {slot : Slot} {s : Text} : slot.Accepts s ↔ ∃ a, slot.Spells s a := by
  constructor
  · intro fits
    cases slot with
    | number => exact ⟨_, .number (Numeral.spells_iff.2 ⟨fits.1, fits.2, rfl⟩)⟩
    | heading =>
        obtain ⟨h, rfl⟩ := fits
        exact ⟨_, .heading h⟩
  · rintro ⟨a, spelled⟩
    cases spelled with
    | number spelled =>
        obtain ⟨numeral, readable, -⟩ := Numeral.spells_iff.1 spelled
        exact ⟨numeral, readable⟩
    | heading h => exact ⟨h, rfl⟩

theorem SpellsAll.length_eq {slots : List Slot} {given : List Text} {arguments : List Argument}
    (spelled : SpellsAll slots given arguments) : given.length = slots.length := by
  induction spelled with
  | nil => rfl
  | cons first others ih => rw [List.length_cons, List.length_cons, ih]

end Slot

namespace Verb

variable {slot : Slot} {s : Text} {slots : List Slot} {given : List Text}
  {arguments : List Argument}

theorem keyword_command (verb : Verb) (arguments : List Argument) :
    (verb.command arguments).keyword = verb.keyword := by
  simp only [command]
  split <;> rfl

theorem readArgument_eq_ok_iff (verb : Verb) (position : Nat) {a : Argument} :
    verb.readArgument position slot s = .ok a ↔ slot.Spells s a := by
  cases slot with
  | number =>
      constructor
      · intro ok
        simp only [readArgument] at ok
        split at ok
        · rename_i token found
          obtain ⟨numeral, rfl⟩ := Recognizer.matchAll?_numeral.1 found
          split at ok
          · rename_i readable
            obtain rfl := Except.ok.inj ok
            exact .number (Numeral.spells_iff.2 ⟨numeral, readable, rfl⟩)
          · cases ok
        · cases ok
      · rintro ⟨spelled⟩
        obtain ⟨numeral, readable, rfl⟩ := Numeral.spells_iff.1 spelled
        have found := Recognizer.matchAll?_numeral.2 ⟨numeral, rfl⟩
        simp [readArgument, found, readable]
  | heading =>
      constructor
      · intro ok
        simp only [readArgument] at ok
        split at ok
        · rename_i token found
          obtain ⟨h, rfl, rfl⟩ := Recognizer.matchAll?_heading.1 found
          rw [Heading.ofLabel?_label] at ok
          obtain rfl := Except.ok.inj ok
          exact .heading h
        · cases ok
      · intro spelled
        cases spelled with
        | heading h =>
            have found := Recognizer.matchAll?_heading.2 ⟨h, rfl, rfl⟩
            simp [readArgument, found, Heading.ofLabel?_label]

theorem readArgument_mishap_iff (verb : Verb) (position : Nat) {m : Mishap} :
    verb.readArgument position slot s = .error (.mishap m) ↔
      m = .overlong ∧ slot = .number ∧ Numeral.IsNumeral s ∧ ¬ Numeral.Readable s := by
  cases slot with
  | number =>
      simp only [readArgument]
      cases found : Recognizer.numeral.matchAll? s with
      | none =>
          have not : ¬ Numeral.IsNumeral s := fun h => by
            rw [Recognizer.matchAll?_numeral.2 ⟨h, rfl⟩] at found
            cases found
          simp [not]
      | some token =>
          obtain ⟨numeral, rfl⟩ := Recognizer.matchAll?_numeral.1 found
          by_cases readable : Numeral.Readable token
          · simp [readable]
          · simp [readable, numeral, eq_comm]
  | heading =>
      simp only [readArgument]
      cases found : Recognizer.heading.matchAll? s with
      | none => simp
      | some token =>
          obtain ⟨heading, rfl, rfl⟩ := Recognizer.matchAll?_heading.1 found
          simp [Heading.ofLabel?_label]

theorem readArguments_eq_ok_iff (verb : Verb) (position : Nat)
    (length : given.length = slots.length) :
    verb.readArguments position slots given = .ok arguments ↔
      Slot.SpellsAll slots given arguments := by
  induction slots generalizing position given arguments with
  | nil =>
      obtain rfl := List.length_eq_zero_iff.1 length
      constructor
      · intro ok
        obtain rfl := Except.ok.inj ok
        exact .nil
      · rintro ⟨⟩
        rfl
  | cons slot slots ih =>
      cases given with
      | nil => cases length
      | cons s given =>
          have length : given.length = slots.length := Nat.succ.inj length
          simp only [readArguments, bind, Except.bind, pure, Except.pure]
          constructor
          · intro ok
            split at ok
            · cases ok
            · rename_i a first
              split at ok
              · cases ok
              · rename_i others rest
                obtain rfl := Except.ok.inj ok
                exact .cons ((verb.readArgument_eq_ok_iff position).1 first)
                  ((ih (position + 1) length).1 rest)
          · intro spelled
            cases spelled with
            | cons first others =>
                rw [(verb.readArgument_eq_ok_iff position).2 first,
                  (ih (position + 1) length).2 others]

theorem readArguments_mishap_iff (verb : Verb) (position : Nat) (slots : List Slot)
    (given : List Text) {m : Mishap} :
    verb.readArguments position slots given = .error (.mishap m) ↔
      m = .overlong ∧ Slot.Overlong slots given := by
  induction slots generalizing position given with
  | nil => simp [readArguments, Slot.Overlong]
  | cons slot slots ih =>
      cases given with
      | nil => simp [readArguments, Slot.Overlong]
      | cons s others =>
          simp only [readArguments, Slot.Overlong, bind, Except.bind, pure, Except.pure]
          cases first : verb.readArgument position slot s with
          | error e =>
              have refused : ¬ slot.Accepts s := fun h => by
                obtain ⟨a, spelled⟩ := Slot.accepts_iff.1 h
                rw [(verb.readArgument_eq_ok_iff position).2 spelled] at first
                cases first
              simp only [refused, false_and, or_false]
              rw [← readArgument_mishap_iff verb position, first]
              simp
          | ok a =>
              have fits : slot.Accepts s :=
                Slot.accepts_iff.2 ⟨a, (verb.readArgument_eq_ok_iff position).1 first⟩
              have short : ¬ (slot = .number ∧ Numeral.IsNumeral s ∧ ¬ Numeral.Readable s) := by
                rintro ⟨rfl, -, long⟩
                exact long fits.2
              simp only [short, false_or, fits, true_and]
              rw [← ih (position + 1) others]
              cases verb.readArguments (position + 1) slots others <;> simp

theorem command_ne_custom (verb : Verb) (standing : verb ∈ standard)
    (spelled : Slot.SpellsAll verb.shape given arguments) (keyword : Text)
    (others : List Argument) : verb.command arguments ≠ .custom keyword others := by
  simp only [standard, List.mem_cons, List.not_mem_nil, or_false] at standing
  rcases standing with rfl | rfl | rfl | rfl | rfl | rfl
  · obtain _ | ⟨⟨-⟩, _ | ⟨⟨-⟩, _ | ⟨⟨h⟩, _ | _⟩⟩⟩ := spelled
    simp [command]
  · obtain _ | ⟨⟨-⟩, _ | ⟨⟨-⟩, _ | _⟩⟩ := spelled
    simp [command]
  all_goals
    cases spelled
    simp [command]

end Verb

namespace Vocabulary

variable {v : Vocabulary} {line : Text} {c : Command}

theorem get?_of_recognize? {keyword k : Text} (h : v.recognize? keyword = some k) :
    ∃ verb, v.verbs.get? k = some verb :=
  Table.get?_of_mem_keys (List.mem_of_find?_eq_some h)

theorem read_of_unrecognized (missed : v.recognize? (Phrase.ofLine line).keyword = none) :
    v.read line =
      .error (.fault (.unknown (Phrase.ofLine line).keyword (Text.sort v.verbs.keys))) := by
  simp only [read, missed]

theorem read_of_recognized {k : Text} {verb : Verb}
    (found : v.recognize? (Phrase.ofLine line).keyword = some k)
    (listed : v.verbs.get? k = some verb) :
    v.read line =
      if (Phrase.ofLine line).arguments.length = verb.shape.length then
        (verb.readArguments 1 verb.shape (Phrase.ofLine line).arguments).map verb.command
      else .error (.fault (.arity verb (Phrase.ofLine line).arguments.length)) := by
  simp only [read, found, listed]

theorem read_eq_ok_iff :
    v.read line = .ok c ↔ ∃ k verb arguments,
      v.recognize? (Phrase.ofLine line).keyword = some k ∧ v.verbs.get? k = some verb ∧
        Slot.SpellsAll verb.shape (Phrase.ofLine line).arguments arguments ∧
        c = verb.command arguments := by
  constructor
  · intro ok
    cases found : v.recognize? (Phrase.ofLine line).keyword with
    | none =>
        rw [read_of_unrecognized found] at ok
        cases ok
    | some k =>
        obtain ⟨verb, listed⟩ := get?_of_recognize? found
        rw [read_of_recognized found listed] at ok
        split at ok
        · rename_i length
          cases given : verb.readArguments 1 verb.shape (Phrase.ofLine line).arguments with
          | error refusal =>
              rw [given] at ok
              cases ok
          | ok arguments =>
              rw [given] at ok
              exact ⟨k, verb, arguments, rfl, listed,
                (verb.readArguments_eq_ok_iff 1 length).1 given, (Except.ok.inj ok).symm⟩
        · cases ok
  · rintro ⟨k, verb, arguments, found, listed, spelled, rfl⟩
    rw [read_of_recognized found listed, if_pos spelled.length_eq,
      (verb.readArguments_eq_ok_iff 1 spelled.length_eq).2 spelled]
    rfl

theorem read_mishap_iff {m : Mishap} :
    v.read line = .error (.mishap m) ↔
      m = .overlong ∧ ∃ k verb, v.recognize? (Phrase.ofLine line).keyword = some k ∧
        v.verbs.get? k = some verb ∧
        (Phrase.ofLine line).arguments.length = verb.shape.length ∧
        Slot.Overlong verb.shape (Phrase.ofLine line).arguments := by
  cases found : v.recognize? (Phrase.ofLine line).keyword with
  | none => simp [read_of_unrecognized found]
  | some k =>
      obtain ⟨verb, listed⟩ := get?_of_recognize? found
      rw [read_of_recognized found listed]
      split
      · rename_i length
        have passed_on : (verb.readArguments 1 verb.shape (Phrase.ofLine line).arguments).map
              verb.command = .error (.mishap m) ↔
            verb.readArguments 1 verb.shape (Phrase.ofLine line).arguments =
              .error (.mishap m) := by
          cases verb.readArguments 1 verb.shape (Phrase.ofLine line).arguments <;>
            simp [Except.map]
        rw [passed_on, verb.readArguments_mishap_iff]
        simp [listed, length]
      · rename_i length
        simp [listed, length]

theorem recognize?_eq_some_iff (exact : v.ignoreCase = false) {keyword k : Text} :
    v.recognize? keyword = some k ↔ k = keyword ∧ keyword ∈ v.verbs.keys := by
  have same (j : Text) :
      ((Recognizer.word j v.ignoreCase).matchAll? keyword).isSome = true ↔ keyword = j := by
    rw [exact, Option.isSome_iff_exists]
    constructor
    · rintro ⟨token, found⟩
      exact (Recognizer.matchAll?_word.1 found).1
    · intro eq
      exact ⟨j, Recognizer.matchAll?_word.2 ⟨eq, rfl⟩⟩
  unfold recognize?
  constructor
  · intro found
    have matched := List.find?_some found
    obtain rfl := (same k).1 matched
    exact ⟨rfl, List.mem_of_find?_eq_some found⟩
  · rintro ⟨rfl, listed⟩
    cases found : v.verbs.keys.find? fun j =>
        ((Recognizer.word j v.ignoreCase).matchAll? k).isSome with
    | none => exact absurd ((same k).2 rfl) (List.find?_eq_none.1 found k listed)
    | some j =>
        have matched := List.find?_some found
        rw [(same j).1 matched]

theorem get?_standard {k : Text} {verb : Verb} :
    standard.verbs.get? k = some verb ↔ verb ∈ Verb.standard ∧ verb.keyword = k := by
  constructor
  · intro listed
    have entries : standard.verbs.entries = Verb.standard.map fun w => (w.keyword, w) := by decide
    have member := Table.mem_of_get? listed
    rw [entries] at member
    obtain ⟨w, standing, eq⟩ := List.mem_map.1 member
    obtain ⟨rfl, rfl⟩ := Prod.mk.inj eq
    exact ⟨standing, rfl⟩
  · have each : ∀ w ∈ Verb.standard, standard.verbs.get? w.keyword = some w := by decide
    rintro ⟨standing, rfl⟩
    exact each verb standing

theorem listed_standard_iff {keyword k : Text} {verb : Verb} :
    standard.recognize? keyword = some k ∧ standard.verbs.get? k = some verb ↔
      k = keyword ∧ verb ∈ Verb.standard ∧ keyword = verb.keyword := by
  constructor
  · rintro ⟨found, listed⟩
    obtain ⟨rfl, -⟩ := (recognize?_eq_some_iff rfl).1 found
    obtain ⟨standing, keyword⟩ := get?_standard.1 listed
    exact ⟨rfl, standing, keyword.symm⟩
  · rintro ⟨rfl, standing, rfl⟩
    have listed := get?_standard.2 ⟨standing, rfl⟩
    have key := List.mem_map_of_mem (f := (·.1)) (Table.mem_of_get? listed)
    exact ⟨(recognize?_eq_some_iff rfl).2 ⟨rfl, key⟩, listed⟩

theorem read_standard_ok_iff :
    standard.read line = .ok c ↔ ∃ verb ∈ Verb.standard, ∃ arguments,
      (Phrase.ofLine line).keyword = verb.keyword ∧
        Slot.SpellsAll verb.shape (Phrase.ofLine line).arguments arguments ∧
        c = verb.command arguments := by
  rw [read_eq_ok_iff]
  constructor
  · rintro ⟨k, verb, arguments, found, listed, spelled, rfl⟩
    obtain ⟨-, standing, keyword⟩ := listed_standard_iff.1 ⟨found, listed⟩
    exact ⟨verb, standing, arguments, keyword, spelled, rfl⟩
  · rintro ⟨verb, standing, arguments, keyword, spelled, rfl⟩
    obtain ⟨found, listed⟩ := listed_standard_iff.2 ⟨rfl, standing, keyword⟩
    exact ⟨_, verb, arguments, found, listed, spelled, rfl⟩

theorem ne_custom_of_read_standard (h : standard.read line = .ok c) (keyword : Text)
    (arguments : List Argument) : c ≠ .custom keyword arguments := by
  obtain ⟨verb, standing, given, -, spelled, rfl⟩ := read_standard_ok_iff.1 h
  exact verb.command_ne_custom standing spelled keyword arguments

end Vocabulary

/-- The phrase opens with a standard keyword and has as many arguments as that takes, and the first
of them that is wrong is a numeral that is too long. -/
def Phrase.IsOverlong (p : Phrase) : Prop :=
  ∃ verb ∈ Verb.standard, p.keyword = verb.keyword ∧ p.arguments.length = verb.shape.length ∧
    Slot.Overlong verb.shape p.arguments

theorem Vocabulary.read_standard_mishap_iff {line : Text} {m : Mishap} :
    standard.read line = .error (.mishap m) ↔
      m = .overlong ∧ (Phrase.ofLine line).IsOverlong := by
  rw [read_mishap_iff, and_congr_right_iff]
  rintro -
  constructor
  · rintro ⟨k, verb, found, listed, length, long⟩
    obtain ⟨-, standing, keyword⟩ := listed_standard_iff.1 ⟨found, listed⟩
    exact ⟨verb, standing, keyword, length, long⟩
  · rintro ⟨verb, standing, keyword, length, long⟩
    obtain ⟨found, listed⟩ := listed_standard_iff.2 ⟨rfl, standing, keyword⟩
    exact ⟨_, verb, found, listed, length, long⟩

def Phrase.IsShort (p : Phrase) : Prop :=
  ∀ a ∈ p.arguments, Numeral.IsNumeral a → Numeral.Readable a

instance (p : Phrase) : Decidable p.IsShort := List.decidableBAll _ p.arguments

theorem Slot.exists_of_overlong {slots : List Slot} {given : List Text}
    (long : Slot.Overlong slots given) :
    ∃ a ∈ given, Numeral.IsNumeral a ∧ ¬ Numeral.Readable a := by
  induction slots generalizing given with
  | nil => exact long.elim
  | cons slot slots ih =>
      cases given with
      | nil => exact long.elim
      | cons a others =>
          rcases long with ⟨-, numeral, long⟩ | ⟨-, later⟩
          · exact ⟨a, List.mem_cons_self, numeral, long⟩
          · obtain ⟨b, member, long⟩ := ih later
            exact ⟨b, List.mem_cons_of_mem a member, long⟩

theorem Phrase.IsShort.not_isOverlong {p : Phrase} (short : p.IsShort) : ¬ p.IsOverlong := by
  rintro ⟨verb, -, -, -, long⟩
  obtain ⟨a, member, numeral, long⟩ := Slot.exists_of_overlong long
  exact long (short a member numeral)

end Rover
