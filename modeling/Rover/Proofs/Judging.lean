import Rover.Diagnostic
import Rover.Proofs.Reading

namespace Rover

namespace Text

theorem precedes_trans {s t u : Text} (first : precedes s t = true) (second : precedes t u = true) :
    precedes s u = true := by
  simp only [precedes, decide_eq_true_eq] at *
  exact List.le_trans first second

theorem precedes_total (s t : Text) : (precedes s t || precedes t s) = true := by
  simp only [precedes, Bool.or_eq_true, decide_eq_true_eq]
  exact List.le_total s t

theorem precedes_antisymm {s t : Text} (first : precedes s t = true)
    (second : precedes t s = true) : s = t := by
  simp only [precedes, decide_eq_true_eq] at *
  exact List.le_antisymm first second

theorem eq_sort_iff {texts sorted : List Text} :
    sorted = sort texts ↔ sorted.Perm texts ∧ sorted.Pairwise (precedes · ·) := by
  have order : (sort texts).Pairwise (precedes · ·) := by
    apply List.pairwise_mergeSort
    · exact fun _ _ _ => precedes_trans
    · exact precedes_total
  have same : (sort texts).Perm texts := List.mergeSort_perm texts _
  constructor
  · rintro rfl
    exact ⟨same, order⟩
  · rintro ⟨perm, sorted⟩
    exact (perm.trans same.symm).eq_of_pairwise (fun _ _ _ _ => precedes_antisymm) sorted order

end Text

theorem Table.of_get?_ofList {α : Type} (holds : Text → α → Prop) {entries : List (Text × α)}
    (each : ∀ e ∈ entries, holds e.1 e.2) {key : Text} {a : α}
    (found : (ofList entries).get? key = some a) : holds key a := by
  have from_table (t : Table α) (start : t.get? key = some a → holds key a) :
      (entries.foldl (fun t e => t.put e.1 e.2) t).get? key = some a → holds key a := by
    clear found
    induction entries generalizing t with
    | nil => exact start
    | cons e rest ih =>
        apply ih fun e member => each e (List.mem_cons_of_mem _ member)
        rw [get?_put]
        split
        · rename_i same
          intro eq
          rw [← same, ← Option.some.inj eq]
          exact each e List.mem_cons_self
        · exact start
  exact from_table empty nofun found

namespace Slot

structure FirstRefused (slots : List Slot) (given : List Text) (i : Nat) (s : Text) (slot : Slot) :
    Prop where
  at_given : given[i]? = some s
  at_slot : slots[i]? = some slot
  refused : slot.recognizer.matchAll? s = none
  before : ∀ j < i, ∀ t other, given[j]? = some t → slots[j]? = some other →
    other.recognizer.matchAll? t ≠ none

variable {slots : List Slot} {given : List Text}

theorem exists_spells {slot : Slot} {s : Text}
    (short : Numeral.IsNumeral s → Numeral.Readable s)
    (whole : slot.recognizer.matchAll? s ≠ none) : ∃ a, slot.Spells s a := by
  obtain ⟨token, found⟩ := Option.ne_none_iff_exists'.1 whole
  apply accepts_iff.1
  cases slot with
  | number =>
      obtain ⟨numeral, -⟩ := Recognizer.matchAll?_numeral.1 found
      exact ⟨numeral, short numeral⟩
  | heading =>
      obtain ⟨h, label, -⟩ := Recognizer.matchAll?_heading.1 found
      exact ⟨h, label⟩

theorem spellsAll_or_firstRefused (length : given.length = slots.length)
    (short : ∀ s ∈ given, Numeral.IsNumeral s → Numeral.Readable s) :
    (∃ arguments, SpellsAll slots given arguments) ∨
      ∃ i s slot, FirstRefused slots given i s slot := by
  induction slots generalizing given with
  | nil =>
      obtain rfl := List.length_eq_zero_iff.1 length
      exact .inl ⟨[], .nil⟩
  | cons slot slots ih =>
      cases given with
      | nil => cases length
      | cons s others =>
          by_cases refused : slot.recognizer.matchAll? s = none
          · exact .inr ⟨0, s, slot, rfl, rfl, refused, fun j lt => absurd lt (Nat.not_lt_zero j)⟩
          · obtain ⟨a, first⟩ := exists_spells (short s List.mem_cons_self) refused
            rcases ih (Nat.succ.inj length) fun t member =>
              short t (List.mem_cons_of_mem s member) with ⟨arguments, rest⟩ | ⟨i, t, other, later⟩
            · exact .inl ⟨a :: arguments, .cons first rest⟩
            · refine .inr ⟨i + 1, t, other, later.at_given, later.at_slot, later.refused, ?_⟩
              intro j lt u slot' at_j slot_j
              cases j with
              | zero =>
                  obtain rfl := Option.some.inj at_j
                  obtain rfl := Option.some.inj slot_j
                  exact refused
              | succ j => exact later.before j (by omega) u slot' at_j slot_j

end Slot

namespace Verb

variable {slots : List Slot} {given : List Text}

theorem readArgument_of_refused (verb : Verb) (position : Nat) {slot : Slot} {s : Text}
    (refused : slot.recognizer.matchAll? s = none) :
    verb.readArgument position slot s = .error (.fault (.argument verb position s slot)) := by
  cases slot with
  | number =>
      have refused : Recognizer.numeral.matchAll? s = none := refused
      simp only [readArgument, refused]
  | heading =>
      have refused : Recognizer.heading.matchAll? s = none := refused
      simp only [readArgument, refused]

theorem readArguments_of_firstRefused (verb : Verb) (position : Nat) {i : Nat} {s : Text}
    {slot : Slot} (wrong : Slot.FirstRefused slots given i s slot)
    (short : ∀ s ∈ given, Numeral.IsNumeral s → Numeral.Readable s) :
    verb.readArguments position slots given =
      .error (.fault (.argument verb (position + i) s slot)) := by
  induction i generalizing position slots given with
  | zero =>
      obtain ⟨at_i, slot_i, refused, -⟩ := wrong
      obtain ⟨others, rfl⟩ := List.head?_eq_some_iff.1 (List.head?_eq_getElem? ▸ at_i)
      obtain ⟨slots, rfl⟩ := List.head?_eq_some_iff.1 (List.head?_eq_getElem? ▸ slot_i)
      simp only [readArguments, verb.readArgument_of_refused position refused, bind, Except.bind,
        Nat.add_zero]
  | succ i ih =>
      obtain ⟨at_i, slot_i, refused, before⟩ := wrong
      cases given with
      | nil => cases at_i
      | cons t others =>
          cases slots with
          | nil => cases slot_i
          | cons other slots =>
              obtain ⟨a, spelled⟩ := Slot.exists_spells (short t List.mem_cons_self)
                (before 0 (Nat.succ_pos i) t other rfl rfl)
              have later : Slot.FirstRefused slots others i s slot :=
                ⟨at_i, slot_i, refused, fun j lt => before (j + 1) (by omega)⟩
              have rest := ih (position + 1) later fun u member =>
                short u (List.mem_cons_of_mem t member)
              rw [Nat.add_right_comm position 1 i] at rest
              simp only [readArguments, (verb.readArgument_eq_ok_iff position).2 spelled, rest,
                bind, Except.bind]
              rfl

theorem arguments_command {verb : Verb} {arguments : List Argument}
    (spelled : Slot.SpellsAll verb.shape given arguments) :
    (verb.command arguments).arguments = arguments := by
  cases verb with
  | deploy =>
      obtain _ | ⟨⟨_⟩, _ | ⟨⟨_⟩, _ | ⟨⟨_⟩, _ | _⟩⟩⟩ := spelled
      rfl
  | pit =>
      obtain _ | ⟨⟨_⟩, _ | ⟨⟨_⟩, _ | _⟩⟩ := spelled
      rfl
  | custom keyword shape => rfl
  | _ =>
      cases spelled
      rfl

end Verb

namespace Vocabulary

def Spells (v : Vocabulary) (k w : Text) : Prop :=
  k.length = w.length ∧ if v.ignoreCase = true then k.lowercase = w.lowercase else k = w

def Names (v : Vocabulary) (k w : Text) : Prop :=
  ∃ earlier later, v.verbs.keys = earlier ++ w :: later ∧ v.Spells k w ∧
    ∀ u ∈ earlier, ¬ v.Spells k u

/-- What is to be said of a phrase: its first fault, or the command that it stands for. -/
inductive Judged (v : Vocabulary) (p : Phrase) : Except Issue Command → Prop
  | unknown {known : List Text} (missed : ∀ w ∈ v.verbs.keys, ¬ v.Spells p.keyword w)
      (listed : known.Perm v.verbs.keys) (sorted : known.Pairwise (Text.precedes · ·)) :
      Judged v p (.error (.unknown p.keyword known))
  | miscounted {w : Text} {verb : Verb} (named : v.Names p.keyword w)
      (listed : v.verbs.get? w = some verb) (uneven : p.arguments.length ≠ verb.shape.length) :
      Judged v p (.error (.malformed
        ("'".toList ++ w ++ "' expects ".toList ++ Numeral.ofNat verb.shape.length
          ++ " argument(s) but got ".toList ++ Numeral.ofNat p.arguments.length)
        (some verb.usage)))
  | mismatched {w : Text} {verb : Verb} {i : Nat} {s : Text} {slot : Slot}
      (named : v.Names p.keyword w) (listed : v.verbs.get? w = some verb)
      (even : p.arguments.length = verb.shape.length)
      (wrong : Slot.FirstRefused verb.shape p.arguments i s slot) :
      Judged v p (.error (.malformed
        ("invalid argument ".toList ++ Numeral.ofNat (i + 1) ++ " '".toList ++ s
          ++ "' for '".toList ++ w ++ "', expected ".toList ++ slot.label)
        (some verb.usage)))
  | accepted {w : Text} {verb : Verb} {arguments : List Argument}
      (named : v.Names p.keyword w) (listed : v.verbs.get? w = some verb)
      (spelled : Slot.SpellsAll verb.shape p.arguments arguments) :
      Judged v p (.ok (verb.command arguments))

def Gives (v : Vocabulary) (line : Text) : Except Issue Command → Prop
  | .ok c => v.read line = .ok c
  | .error issue => ∃ f : Fault, v.read line = .error (.fault f) ∧ f.issue = issue

variable {v : Vocabulary} {line : Text} {r r' : Except Issue Command}

theorem spells_iff {k w : Text} :
    v.Spells k w ↔ ((Recognizer.word w v.ignoreCase).matchAll? k).isSome = true := by
  rw [Option.isSome_iff_exists, Spells]
  simp only [Recognizer.matchAll?_word_eq_some_iff, exists_eq_right, Recognizer.sameWord]
  split <;> simp

theorem recognize?_eq_some_iff_names {k w : Text} : v.recognize? k = some w ↔ v.Names k w := by
  rw [recognize?, List.find?_eq_some_iff_append, ← spells_iff]
  constructor
  · rintro ⟨spelled, earlier, later, split, none⟩
    refine ⟨earlier, later, split, spelled, fun u member => ?_⟩
    simpa [spells_iff] using none u member
  · rintro ⟨earlier, later, split, spelled, none⟩
    refine ⟨spelled, earlier, later, split, fun u member => ?_⟩
    simpa [spells_iff] using none u member

theorem recognize?_eq_none_iff {k : Text} :
    v.recognize? k = none ↔ ∀ w ∈ v.verbs.keys, ¬ v.Spells k w := by
  simp only [recognize?, List.find?_eq_none, spells_iff]

theorem Gives.unique (gives : v.Gives line r) (gives' : v.Gives line r') : r = r' := by
  cases r with
  | ok c =>
      cases r' with
      | ok c' => rw [Except.ok.inj (gives.symm.trans gives')]
      | error issue =>
          obtain ⟨f, refused, -⟩ := gives'
          cases gives.symm.trans refused
  | error issue =>
      obtain ⟨f, refused, rfl⟩ := gives
      cases r' with
      | ok c => cases refused.symm.trans gives'
      | error issue' =>
          obtain ⟨f', refused', rfl⟩ := gives'
          rw [Refusal.fault.inj (Except.error.inj (refused.symm.trans refused'))]

theorem Judged.gives (keyed : ∀ w verb, v.verbs.get? w = some verb → verb.keyword = w)
    (short : (Phrase.ofLine line).IsShort) (judged : v.Judged (Phrase.ofLine line) r) :
    v.Gives line r := by
  cases judged with
  | unknown missed listed sorted =>
      obtain rfl := Text.eq_sort_iff.2 ⟨listed, sorted⟩
      exact ⟨_, read_of_unrecognized (recognize?_eq_none_iff.2 missed), rfl⟩
  | @miscounted w verb named listed uneven =>
      refine ⟨.arity verb (Phrase.ofLine line).arguments.length, ?_, ?_⟩
      · rw [read_of_recognized (recognize?_eq_some_iff_names.2 named) listed, if_neg uneven]
      · rw [← keyed _ _ listed]
        rfl
  | @mismatched w verb i s slot named listed even wrong =>
      refine ⟨.argument verb (1 + i) s slot, ?_, ?_⟩
      · rw [read_of_recognized (recognize?_eq_some_iff_names.2 named) listed, if_pos even,
          verb.readArguments_of_firstRefused 1 wrong short]
        rfl
      · rw [← keyed _ _ listed, Nat.add_comm i 1]
        rfl
  | accepted named listed spelled =>
      exact read_eq_ok_iff.2
        ⟨_, _, _, recognize?_eq_some_iff_names.2 named, listed, spelled, rfl⟩

theorem exists_judged (v : Vocabulary) {p : Phrase} (short : p.IsShort) : ∃ r, v.Judged p r := by
  cases found : v.recognize? p.keyword with
  | none =>
      obtain ⟨listed, sorted⟩ := Text.eq_sort_iff.1 (rfl : Text.sort v.verbs.keys = _)
      exact ⟨_, .unknown (recognize?_eq_none_iff.1 found) listed sorted⟩
  | some w =>
      obtain ⟨verb, listed⟩ := get?_of_recognize? found
      have named := recognize?_eq_some_iff_names.1 found
      by_cases even : p.arguments.length = verb.shape.length
      · rcases Slot.spellsAll_or_firstRefused even short with
          ⟨arguments, spelled⟩ | ⟨i, s, slot, wrong⟩
        · exact ⟨_, .accepted named listed spelled⟩
        · exact ⟨_, .mismatched named listed even wrong⟩
      · exact ⟨_, .miscounted named listed even⟩

theorem keyword_of_get?_ofVerbs {verbs : List Verb} {ignoreCase : Bool} {w : Text} {verb : Verb}
    (listed : (ofVerbs verbs ignoreCase).verbs.get? w = some verb) : verb.keyword = w := by
  refine Table.of_get?_ofList (fun w verb => verb.keyword = w) (fun e member => ?_) listed
  obtain ⟨verb, -, rfl⟩ := List.mem_map.1 member
  rfl

/-- A line whose numerals are short enough is judged as a whole: an unknown keyword comes before a
wrong number of arguments, and that before the first argument that does not fit. -/
theorem gives_iff_judged (verbs : List Verb) (ignoreCase : Bool) {line : Text}
    (short : (Phrase.ofLine line).IsShort) :
    let v := ofVerbs verbs ignoreCase
    let p := Phrase.ofLine line
    (∃ r, v.Gives line r) ∧ (∀ r, v.Gives line r ↔ v.Judged p r) ∧
      (∀ known, (Issue.unknown p.keyword known).hint? =
        some ("expected one of: ".toList ++ [' '].intercalate known)) ∧
      ∀ c, v.read line = .ok c → ∃ verb, v.Names p.keyword c.keyword ∧
        v.verbs.get? c.keyword = some verb ∧
        Slot.SpellsAll verb.shape p.arguments c.arguments := by
  intro v p
  have keyed (w : Text) (verb : Verb) (listed : v.verbs.get? w = some verb) : verb.keyword = w :=
    keyword_of_get?_ofVerbs listed
  obtain ⟨r, judged⟩ := v.exists_judged short
  have gives := judged.gives keyed short
  refine ⟨⟨r, gives⟩, fun r' => ⟨fun gives' => ?_, fun judged' => judged'.gives keyed short⟩,
    fun known => rfl, ?_⟩
  · rwa [gives'.unique gives]
  · intro c ok
    obtain ⟨w, verb, arguments, found, listed, spelled, rfl⟩ := read_eq_ok_iff.1 ok
    obtain rfl := keyed w verb listed
    rw [verb.keyword_command, Verb.arguments_command spelled]
    exact ⟨verb, recognize?_eq_some_iff_names.1 found, listed, spelled⟩

theorem gives_iff_judged_two_faults :
    ∃ (v : Vocabulary) (line : Text),
      v = ofVerbs [.pit, .custom "Go".toList [.number, .heading, .number],
        .custom "GO".toList []] true ∧
      line = " gO -3,north,x\t".toList ∧ (Phrase.ofLine line).IsShort ∧
      v.Gives line (.error (.malformed
        "invalid argument 2 'north' for 'Go', expected DIRECTION".toList
        (some "Go INT,DIRECTION,INT".toList))) := by
  let verb : Verb := .custom "Go".toList [.number, .heading, .number]
  let v : Vocabulary := ofVerbs [.pit, verb, .custom "GO".toList []] true
  let line : Text := " gO -3,north,x\t".toList
  let p : Phrase := ⟨"gO".toList, ["-3".toList, "north".toList, "x".toList]⟩
  have phrase : Phrase.ofLine line = p := by decide +kernel
  have short : (Phrase.ofLine line).IsShort := by decide +kernel
  obtain ⟨-, judged, -⟩ := gives_iff_judged [.pit, verb, .custom "GO".toList []] true short
  refine ⟨v, line, rfl, rfl, short, (judged _).2 ?_⟩
  rw [phrase]
  have named : v.Names p.keyword "Go".toList :=
    recognize?_eq_some_iff_names.1 (by decide +kernel)
  have listed : v.verbs.get? "Go".toList = some verb := by decide +kernel
  have wrong : Slot.FirstRefused verb.shape p.arguments 1 "north".toList .heading := by
    refine ⟨rfl, rfl, by decide +kernel, fun j lt t other at_j slot_j => ?_⟩
    obtain rfl : j = 0 := by omega
    obtain rfl := Option.some.inj at_j
    obtain rfl := Option.some.inj slot_j
    decide +kernel
  exact .mismatched named listed rfl wrong

end Vocabulary

end Rover
