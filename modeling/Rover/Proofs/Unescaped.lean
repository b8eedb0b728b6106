import Rover.Proofs.Expansion
import Rover.Proofs.Journal
import Rover.Proofs.Mistakes
import Rover.Proofs.Telling

namespace Rover

open Text

theorem Cell.noEscape_text (c : Cell) : c.text.NoEscape := by
  simp only [Cell.text, noEscape_append]
  exact ⟨⟨Numeral.noEscape_ofInt c.x, by decide⟩, Numeral.noEscape_ofInt c.y⟩

theorem Argument.noEscape_text (a : Argument) : a.text.NoEscape := by
  cases a with
  | number n => exact Numeral.noEscape_ofInt n
  | heading h => exact h.noEscape_label

theorem Command.noEscape_text {c : Command} (clear : c.keyword.NoEscape) : c.text.NoEscape := by
  have arguments : NoEscape ([','].intercalate (c.arguments.map Argument.text)) := by
    apply NoEscape.intercalate (by decide)
    intro piece member
    obtain ⟨a, -, rfl⟩ := List.mem_map.1 member
    exact a.noEscape_text
  simp only [Command.text]
  split
  · exact clear
  · rw [noEscape_append, noEscape_cons]
    exact ⟨clear, by decide, arguments⟩

theorem State.noEscape_summary {st : State} {t : Text} (told : st.summary = .ok t) :
    t.NoEscape := by
  have cell {t : Text} (told : cellText st.position = .ok t) : t.NoEscape := by
    unfold cellText at told
    split at told
    · obtain rfl := Except.ok.inj told
      decide
    · split at told
      · obtain rfl := Except.ok.inj told
        exact Cell.noEscape_text _
      · cases told
  simp only [summary, bind, Except.bind, pure, Except.pure] at told
  split at told
  · split at told
    · cases told
    · rename_i heading looks
      split at told
      · cases told
      · rename_i shown
        obtain rfl := Except.ok.inj told
        simp only [noEscape_append]
        exact ⟨⟨⟨⟨cell shown, by decide⟩, heading.noEscape_label⟩, by decide⟩,
          Numeral.noEscape_ofNat _⟩
  · obtain rfl := Except.ok.inj told
    decide

namespace Phrase

theorem keyword_subset (line : Text) : (ofLine line).keyword ⊆ line := by
  obtain ⟨u, v, -, -, ⟨-, whole⟩ | ⟨-, w, -, -, whole⟩⟩ := exists_spelling line
  · intro c member
    rw [whole]
    simp [member]
  · intro c member
    rw [whole]
    simp [member]

theorem argument_subset {line given : Text} (member : given ∈ (ofLine line).arguments) :
    given ⊆ line := by
  obtain ⟨u, v, -, -, ⟨alone, -⟩ | ⟨-, w, -, -, whole⟩⟩ := exists_spelling line
  · rw [alone] at member
    cases member
  · intro c inside
    rw [whole]
    simp [subset_intercalate [','] member inside]

end Phrase

theorem Verb.readArguments_fault {verb : Verb} {position : Nat} {slots : List Slot}
    {given : List Text} {f : Fault}
    (refused : verb.readArguments position slots given = .error (.fault f)) :
    ∃ n, ∃ g ∈ given, ∃ slot, f = .argument verb n g slot := by
  induction slots generalizing position given with
  | nil => cases refused
  | cons slot slots ih =>
      cases given with
      | nil => cases refused
      | cons g others =>
          simp only [readArguments, bind, Except.bind, pure, Except.pure] at refused
          split at refused
          · rename_i refusal first
            cases refused
            cases slot with
            | number =>
                simp only [readArgument] at first
                split at first
                · split at first <;> cases first
                · cases first
                  exact ⟨_, g, List.mem_cons_self, _, rfl⟩
            | heading =>
                simp only [readArgument] at first
                split at first
                · split at first <;> cases first
                · cases first
                  exact ⟨_, g, List.mem_cons_self, _, rfl⟩
          · split at refused
            · rename_i later
              cases refused
              obtain ⟨n, h, member, rest⟩ := ih later
              exact ⟨n, h, List.mem_cons_of_mem g member, rest⟩
            · cases refused

namespace Vocabulary

def NoEscape (v : Vocabulary) : Prop := ∀ e ∈ v.verbs.entries, e.2.keyword.NoEscape

variable {v : Vocabulary} {line : Text}

theorem NoEscape.keyword (clear : v.NoEscape) {c : Command} (ok : v.read line = .ok c) :
    c.keyword.NoEscape := by
  obtain ⟨k, verb, arguments, -, listed, -, rfl⟩ := read_eq_ok_iff.1 ok
  rw [verb.keyword_command]
  exact clear _ (Table.mem_of_get? listed)

theorem NoEscape.message (clear : v.NoEscape) (plain : line.NoEscape) {f : Fault}
    (refused : v.read line = .error (.fault f)) : f.message.NoEscape := by
  have number (n : Nat) := Numeral.noEscape_ofNat n
  cases found : v.recognize? (Phrase.ofLine line).keyword with
  | none =>
      rw [read_of_unrecognized found] at refused
      obtain rfl := Refusal.fault.inj (Except.error.inj refused)
      change Text.NoEscape ("unknown command '".toList ++ _ ++ "'".toList)
      rw [noEscape_append, noEscape_append]
      exact ⟨⟨by decide, plain.mono (Phrase.keyword_subset line)⟩, by decide⟩
  | some k =>
      obtain ⟨verb, listed⟩ := get?_of_recognize? found
      have keyword : verb.keyword.NoEscape := clear _ (Table.mem_of_get? listed)
      rw [read_of_recognized found listed] at refused
      split at refused
      · cases given : verb.readArguments 1 verb.shape (Phrase.ofLine line).arguments with
        | ok arguments =>
            rw [given] at refused
            cases refused
        | error refusal =>
            rw [given] at refused
            obtain rfl := Except.error.inj refused
            obtain ⟨n, g, member, slot, rfl⟩ := Verb.readArguments_fault given
            have label : slot.label.NoEscape := by cases slot <;> decide
            have argument := plain.mono (Phrase.argument_subset member)
            change Text.NoEscape ("invalid argument ".toList ++ _ ++ " '".toList ++ _
              ++ "' for '".toList ++ _ ++ "', expected ".toList ++ _)
            simp only [noEscape_append]
            exact ⟨⟨⟨⟨⟨⟨⟨by decide, number n⟩, by decide⟩, argument⟩, by decide⟩, keyword⟩,
              by decide⟩, label⟩
      · obtain rfl := Refusal.fault.inj (Except.error.inj refused)
        change Text.NoEscape ("'".toList ++ _ ++ "' expects ".toList ++ _
          ++ " argument(s) but got ".toList ++ _)
        simp only [noEscape_append]
        exact ⟨⟨⟨⟨⟨by decide, keyword⟩, by decide⟩, number _⟩, by decide⟩, number _⟩

end Vocabulary

theorem Encoding.Flaw.noEscape_text (f : Flaw) : f.text.NoEscape := by
  have number (n : Nat) := Numeral.noEscape_ofNat n
  have label : f.encoding.label.NoEscape := by cases f.encoding <;> decide
  have defect : f.defect.text.NoEscape := by cases f.defect <;> decide
  have place : f.place.NoEscape := by
    simp only [Flaw.place]
    split
    · simp only [noEscape_append]
      exact ⟨⟨⟨by decide, noEscape_hex 2 _⟩, by decide⟩, number _⟩
    · simp only [noEscape_append]
      exact ⟨⟨⟨by decide, number _⟩, by decide⟩, number _⟩
  simp only [Flaw.text, noEscape_append]
  exact ⟨⟨⟨⟨⟨by decide, label⟩, by decide⟩, place⟩, by decide⟩, defect⟩

theorem FileError.noEscape_text {e : FileError} {path cause : Text} (clear : path.NoEscape)
    (told : e.text? path = some cause) : cause.NoEscape := by
  cases e with
  | unusable => cases told
  | _ =>
      cases told
      rw [noEscape_append]
      exact ⟨by decide, clear.quoted⟩

theorem Place.noEscape_styled {p : Place} (content : ∀ t ∈ p.content, t.NoEscape)
    (source : ∀ t ∈ p.source, t.NoEscape) : p.styled.text.NoEscape := by
  have excerpt : (excerpt excerptWidth p.content).text.NoEscape := by
    unfold excerpt
    split
    · exact noEscape_nil
    · rename_i s found
      have shown : (escapeBreaks s).NoEscape := (content s found).escapeBreaks
      dsimp only
      split
      · rw [Styled.text_append, Styled.text_plain, Styled.text_inked, noEscape_append]
        exact ⟨shown.mono (slice_subset _ _ _), by decide⟩
      · rwa [Styled.text_plain]
  have named : ∀ t ∈ p.source?, t.NoEscape := fun t member =>
    source t (Option.mem_filter_iff.1 member).1
  simp only [styled]
  split
  · rename_i n found
    simp only [Styled.text_append, Styled.text_plain, noEscape_append]
    refine ⟨⟨⟨⟨?_, Numeral.noEscape_ofInt n⟩, by decide⟩, excerpt⟩, by decide⟩
    cases name : p.source? with
    | none => exact noEscape_nil
    | some t =>
        change NoEscape (t ++ [':'])
        rw [noEscape_append]
        exact ⟨named t name, by decide⟩
  · rename_i t found name
    rw [Styled.text_inked]
    exact named t name
  · decide

structure Diagnostic.NoEscape (d : Diagnostic) : Prop where
  place : ∀ p ∈ d.place, p.styled.text.NoEscape
  issue : d.issue.styled.text.NoEscape

theorem Diagnostic.noEscape_unreadable {p : Place} {cause : Text} (coloured : Bool)
    (content : ∀ t ∈ p.content, t.NoEscape) (source : ∀ t ∈ p.source, t.NoEscape)
    (clear : cause.NoEscape) : Diagnostic.NoEscape ⟨some p, .unreadable cause, coloured⟩ where
  place := by
    intro q found
    obtain rfl := Option.some.inj found
    exact Place.noEscape_styled content source
  issue := by
    change Text.NoEscape (Styled.text (Styled.inked .alert "input error".toList
      ++ Styled.plain (": ".toList ++ ("can't read input (".toList ++ cause ++ ")".toList)) ++ []))
    simp only [Styled.text_append, Styled.text_plain, Styled.text_inked, Styled.text_nil,
      noEscape_append]
    exact ⟨⟨by decide, by decide, ⟨by decide, clear⟩, by decide⟩, noEscape_nil⟩

structure Wording.NoEscape (w : Wording) : Prop where
  outside : ∀ t ∈ w.outside, t.NoEscape
  pit : ∀ t ∈ w.pit, t.NoEscape
  robot : ∀ t ∈ w.robot, t.NoEscape
  report : ∀ p t, w.reportOf p = .ok t → t.NoEscape

theorem Wording.noEscape_standard : Wording.standard.NoEscape :=
  ⟨by decide, by decide, by decide,
    fun _ _ => reportOf_noEscape (by decide) Template.Extras.noEscape_none⟩

theorem Vocabulary.noEscape_standard : Vocabulary.standard.NoEscape := by
  simp only [Vocabulary.NoEscape]
  decide

structure Settings.NoEscape (s : Settings) : Prop where
  wording : s.wording.NoEscape
  vocabulary : s.vocabulary.NoEscape
  overrides : ∀ e ∈ s.overrides.entries, ∀ t ∈ e.2, t.NoEscape

def State.NoEscape (st : State) : Prop := ∀ t ∈ st.source, t.NoEscape

def Deed.NoEscape (d : Deed) : Prop := ∀ t, d.result = .ok (some t) → t.NoEscape

def Entry.NoEscape : Entry → Prop
  | .trace line => line.text.NoEscape
  | .warning text => text.NoEscape
  | .output text => text.NoEscape

namespace Settings

variable {s : Settings} (clear : s.NoEscape) (st : State)

include clear

theorem NoEscape.onVerdict (v : Verdict) : ∀ t ∈ s.wording.onVerdict v, t.NoEscape := by
  cases v with
  | free => intro t found; cases found
  | pit => exact clear.wording.pit
  | outside => exact clear.wording.outside

theorem NoEscape.land (cell : Cell) (heading : Heading) : (s.land st cell heading).NoEscape := by
  intro t said
  simp only [Settings.land] at said
  split at said
  · cases said
  · exact clear.onVerdict _ t (Except.ok.inj said)

theorem NoEscape.dig (cell? : Option Cell) : (s.dig st cell?).NoEscape := by
  intro t said
  simp only [Settings.dig] at said
  split at said
  · split at said
    · cases said
    · split at said
      · exact clear.wording.robot t (Except.ok.inj said)
      · cases said
  · cases said

theorem NoEscape.advance : (s.advance st).NoEscape := by
  intro t said
  simp only [Settings.advance] at said
  split at said
  · cases said
  · split at said
    · cases said
    · exact clear.onVerdict _ t (Except.ok.inj said)

omit clear in
theorem face_noEscape (turn : Heading → Heading) : (face st turn).NoEscape := by
  intro t said
  simp only [face] at said
  split at said <;> cases said

theorem NoEscape.report {t : Text} (said : s.report st = .ok (some t)) : t.NoEscape := by
  simp only [Settings.report] at said
  split at said
  · split at said
    · cases said
    · split at said
      · rename_i expanded
        obtain rfl := Option.some.inj (Except.ok.inj said)
        exact clear.wording.report _ _ expanded
      · cases said
  · cases said

theorem NoEscape.obeyKeyword (keyword : Text) : (s.obeyKeyword st keyword).NoEscape := by
  have silent (crash : Crash) : Deed.NoEscape ⟨st, .error crash⟩ := by
    intro t said
    cases said
  simp only [Settings.obeyKeyword]
  split_ifs
  · exact clear.advance st
  · exact face_noEscape st _
  · exact face_noEscape st _
  · exact fun t => clear.report st
  · exact clear.dig st none
  · exact silent _
  · exact silent _

theorem NoEscape.obey (c : Command) : (s.obey st c).NoEscape := by
  cases c with
  | deploy cell heading => exact clear.land st cell heading
  | pit cell => exact clear.dig st (some cell)
  | move => exact clear.advance st
  | left => exact face_noEscape st _
  | right => exact face_noEscape st _
  | report => exact fun t => clear.report st
  | custom keyword arguments => exact clear.obeyKeyword st keyword

theorem NoEscape.respond (c : Command) : (s.respond st c).NoEscape := by
  simp only [Settings.respond]
  split
  · split
    · rename_i answer listed
      intro t said
      exact clear.overrides _ (Table.mem_of_get? listed) t (Except.ok.inj said)
    · exact clear.obey st c
  · intro t said
    cases said

theorem NoEscape.deedOf (line : Text) : (s.deedOf st line).NoEscape := by
  simp only [Settings.deedOf]
  split
  · intro t said
    cases said
  · intro t said
    cases said
  · exact clear.respond (numbered st) _

omit clear in
theorem note_noEscape (ink : Ink) {title content : Text} (header : title.NoEscape)
    (plain : content.NoEscape) : (note ink title content).text.NoEscape := by
  apply Styled.noEscape_entry header
  rwa [Styled.text_plain]

variable {line : Text} (plain : line.NoEscape)

include plain

theorem NoEscape.accountOf {deed : Deed} (told : deed.NoEscape) :
    ∀ note ∈ s.accountOf st deed (s.vocabulary.read line), note.text.NoEscape := by
  intro entry member
  cases read : s.vocabulary.read line with
  | error refusal =>
      rw [read] at member
      cases refusal with
      | mishap m => cases member
      | fault f =>
          rw [List.mem_singleton.1 member]
          exact note_noEscape _ (by decide) (clear.vocabulary.message plain read)
  | ok c =>
      have command := Command.noEscape_text (clear.vocabulary.keyword read)
      have ignored : ∀ t ∈ s.ignored? st c, t.NoEscape := by
        intro t found
        simp only [ignored?] at found
        split_ifs at found <;> cases found <;> decide
      rw [read] at member
      rcases List.mem_append.1 member with member | member
      · obtain ⟨t, listed, rfl⟩ := List.mem_map.1 member
        exact note_noEscape _ (by decide) (ignored t (Option.mem_toList.1 listed))
      · split at member
        · cases member
        · rename_i output said
          rcases List.mem_append.1 member with member | member
          · rcases List.mem_append.1 member with member | member
            · rw [List.mem_singleton.1 member]
              exact note_noEscape _ (by decide) command
            · obtain ⟨t, listed, rfl⟩ := List.mem_map.1 member
              obtain rfl := Option.mem_toList.1 listed
              exact note_noEscape _ (by decide) (told t said)
          · obtain ⟨t, listed, rfl⟩ := List.mem_map.1 member
            apply note_noEscape _ (by decide)
            cases summed : deed.state.summary with
            | error why =>
                rw [summed] at listed
                cases listed
            | ok summary =>
                rw [summed] at listed
                obtain rfl := List.mem_singleton.1 listed
                exact State.noEscape_summary summed

theorem NoEscape.warningsOf :
    ∀ t ∈ warningsOf st line (s.vocabulary.read line), t.NoEscape := by
  intro t member
  cases read : s.vocabulary.read line with
  | ok c =>
      rw [read] at member
      cases member
  | error refusal =>
      rw [read] at member
      cases refusal with
      | mishap m => cases member
      | fault f =>
          rw [List.mem_singleton.1 member]
          simp only [noEscape_append]
          exact ⟨⟨⟨⟨⟨by decide, Numeral.noEscape_ofNat _⟩, by decide⟩,
            plain.mono (chomp_subset line)⟩, by decide⟩, clear.vocabulary.message plain read⟩

theorem NoEscape.execute (named : st.NoEscape) :
    (∀ e ∈ (s.execute st line).entries, e.NoEscape) ∧
      (∀ t, (s.execute st line).result = .ok (some t) → t.NoEscape) ∧
      (s.execute st line).state.NoEscape := by
  have deed : (s.heed (numbered st) (s.vocabulary.read line)).NoEscape := by
    intro t said
    apply clear.deedOf st line t
    rwa [← heed_result]
  refine ⟨?_, ?_, ?_⟩
  · intro e member
    rcases List.mem_append.1 member with member | member
    · obtain ⟨entry, listed, rfl⟩ := List.mem_map.1 member
      change entry ∈ (if s.traced then _ :: _ else []) at listed
      split at listed
      · rcases List.mem_cons.1 listed with rfl | listed
        · apply Styled.noEscape_entry (by decide)
          apply Place.noEscape_styled
          · intro t found
            obtain rfl := Option.some.inj found
            exact plain.mono (chomp_subset line)
          · exact named
        · exact clear.accountOf (numbered st) plain deed entry listed
      · cases listed
    · obtain ⟨t, listed, rfl⟩ := List.mem_map.1 member
      exact clear.warningsOf (numbered st) plain t listed
  · intro t said
    exact clear.deedOf st line t (deedOf_eq_ok said)
  · rw [State.NoEscape, execute_source]
    exact named

end Settings

end Rover
