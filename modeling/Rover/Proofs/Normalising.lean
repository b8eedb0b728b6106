import Mathlib.Data.List.Forall2
import Rover.Proofs.Interleaving
import Rover.Proofs.Mistakes
import Rover.Proofs.PitHistory
import Rover.Proofs.Writing

namespace Rover

theorem Chain.command?_eq_given (v : Vocabulary) (line : Text) :
    command? v line = (given v line).toOption.join := by
  simp only [command?, given]
  cases v.read line with
  | ok c => rfl
  | error refusal => cases refusal <;> rfl

namespace Vocabulary

theorem mistake?_isSome_iff (v : Vocabulary) (n : Nat) (line : Text) :
    (v.mistake? n line).isSome = true ↔ Chain.given v line = .ok none := by
  simp only [mistake?, Chain.given]
  cases v.read line with
  | ok c => simp
  | error refusal => cases refusal <;> simp

def Agree (v : Vocabulary) (a b : Text) : Prop := Chain.given v a = Chain.given v b

/-- A line as its command is written, and a malformed one as the empty line. -/
def normal (v : Vocabulary) (line : Text) : Text :=
  match v.read line with
  | .ok c => c.text
  | .error _ => []

theorem agree_normal {line : Text} (short : (Phrase.ofLine line).IsShort) :
    standard.Agree line (standard.normal line) := by
  simp only [Agree, normal, Chain.given]
  cases read : standard.read line with
  | ok c => rw [read_text (isWritable_of_read read)]
  | error refusal =>
      cases refusal with
      | fault f => rfl
      | mishap m =>
          obtain ⟨-, long⟩ := read_standard_mishap_iff.1 read
          exact absurd long short.not_isOverlong

theorem forall_agree_normal {lines : List Text}
    (short : ∀ line ∈ lines, (Phrase.ofLine line).IsShort) :
    List.Forall₂ standard.Agree lines (lines.map standard.normal) := by
  induction lines with
  | nil => exact .nil
  | cons line lines ih =>
      obtain ⟨first, others⟩ := List.forall_mem_cons.1 short
      exact .cons (agree_normal first) (ih others)

end Vocabulary

/-- The same but for the warnings, the name of the source and what is left of it. -/
structure Stretch.Agree (x y : Stretch) : Prop where
  state : State.Alike x.state y.state
  lineNumber : x.state.lineNumber = y.state.lineNumber
  outputs : x.outputs = y.outputs
  taken : x.taken = y.taken
  ending : x.ending = y.ending

theorem Stretch.Agree.preceded {x y : Stretch} (agree : Agree x y) {entries entries' : List Entry}
    (outputs : entries.filterMap Entry.output? = entries'.filterMap Entry.output?) :
    Agree (x.preceded entries) (y.preceded entries') where
  state := agree.state
  lineNumber := agree.lineNumber
  outputs := by
    rw [Settings.outputs_preceded, Settings.outputs_preceded, outputs, agree.outputs]
  taken := congrArg (· + 1) agree.taken
  ending := agree.ending

namespace Settings

variable (s : Settings) (st : State)

theorem deedOf_eq_given (line : Text) :
    s.deedOf st line =
      match Chain.given s.vocabulary line with
      | .error m => ⟨numbered st, .error (.unread m)⟩
      | .ok none => ⟨numbered st, .ok none⟩
      | .ok (some c) => s.respond (numbered st) c := by
  simp only [deedOf, Chain.given]
  cases s.vocabulary.read line with
  | ok c => rfl
  | error refusal => cases refusal <;> rfl

variable {s st} {a b : Text}

theorem execute_agree (st : State) (agree : s.vocabulary.Agree a b) :
    (s.execute st a).result = (s.execute st b).result ∧
      (s.execute st a).state = (s.execute st b).state ∧
      ((s.execute st a).warnings = [] ↔ (s.execute st b).warnings = []) := by
  have deed : s.deedOf st a = s.deedOf st b := by
    rw [deedOf_eq_given, deedOf_eq_given, agree]
  have command : Chain.command? s.vocabulary a = Chain.command? s.vocabulary b := by
    rw [Chain.command?_eq_given, Chain.command?_eq_given, agree]
  refine ⟨?_, ?_, ?_⟩
  · have told : s.tell (s.deedOf st b) (s.vocabulary.read a) =
        s.tell (s.deedOf st b) (s.vocabulary.read b) := by
      have agree : Chain.given s.vocabulary a = Chain.given s.vocabulary b := agree
      -- what is told depends only on whether a command was read
      unfold Chain.given at agree
      split at agree <;> split at agree <;> simp_all [tell]
    rw [(s.execute_eq st a).1, (s.execute_eq st b).1, deed, told]
  · rw [(s.execute_eq st a).2, (s.execute_eq st b).2, deed, command]
  · have silent (line : Text) :
        (s.execute st line).warnings = [] ↔ ¬ Chain.given s.vocabulary line = .ok none := by
      rw [execute_warnings, ← s.vocabulary.mistake?_isSome_iff (st.lineNumber + 1)]
      cases s.vocabulary.mistake? (st.lineNumber + 1) line <;> simp
    rw [silent, silent, agree]

variable (s st) in
structure SameTurns (lines others : List Text) : Prop where
  state : ∀ i, s.before st lines i = s.before st others i
  result : ∀ i a b, lines[i]? = some a → others[i]? = some b →
    (s.execute (s.before st lines i) a).result = (s.execute (s.before st others i) b).result
  warned : ∀ i a b, lines[i]? = some a → others[i]? = some b →
    ((s.execute (s.before st lines i) a).warnings = [] ↔
      (s.execute (s.before st others i) b).warnings = [])

theorem sameTurns_of_agree {lines others : List Text}
    (each : List.Forall₂ s.vocabulary.Agree lines others) : s.SameTurns st lines others := by
  have state : ∀ i, s.before st lines i = s.before st others i := by
    induction each generalizing st with
    | nil => exact fun _ => rfl
    | @cons a b lines others first each ih =>
        intro i
        cases i with
        | zero => rfl
        | succ i =>
            obtain ⟨-, after, -⟩ := execute_agree (s := s) st first
            change s.before (s.execute st a).state lines i =
              s.before (s.execute st b).state others i
            rw [after]
            exact ih i
  have agree (i : Nat) (a b : Text) (here : lines[i]? = some a) (there : others[i]? = some b) :
      s.vocabulary.Agree a b := by
    obtain ⟨lt, rfl⟩ := List.getElem?_eq_some_iff.1 here
    obtain ⟨lt', rfl⟩ := List.getElem?_eq_some_iff.1 there
    exact each.get lt lt'
  refine ⟨state, ?_, ?_⟩
  · intro i a b here there
    rw [state i]
    exact (execute_agree _ (agree i a b here there)).1
  · intro i a b here there
    rw [state i]
    exact (execute_agree _ (agree i a b here there)).2.2

variable (s) in
def ItemsAgree (x y : Item) : Prop :=
  ∃ a b, s.lineOf x = .ok a ∧ s.lineOf y = .ok b ∧ s.vocabulary.Agree a b

theorem itemsAgree_text {lines others : List Text}
    (each : List.Forall₂ s.vocabulary.Agree lines others) :
    List.Forall₂ s.ItemsAgree (lines.map .text) (others.map .text) := by
  induction each with
  | nil => exact .nil
  | cons first each ih => exact .cons ⟨_, _, rfl, rfl, first⟩ ih

variable {st' : State}

theorem advanceBy_agree (coloured : Bool) (quota : Nat) (alike : State.Alike st st')
    (number : st.lineNumber = st'.lineNumber) {items items' : List Item}
    (each : List.Forall₂ s.ItemsAgree items items') :
    (s.advanceBy coloured quota st items).Agree (s.advanceBy coloured quota st' items') ∧
      List.Forall₂ s.ItemsAgree (s.advanceBy coloured quota st items).rest
        (s.advanceBy coloured quota st' items').rest := by
  induction each generalizing quota st st' with
  | nil =>
      cases quota with
      | zero => exact ⟨⟨alike, number, rfl, rfl, rfl⟩, .nil⟩
      | succ quota => exact ⟨⟨alike, number, rfl, rfl, rfl⟩, .nil⟩
  | @cons item item' rest rest' first each ih =>
      cases quota with
      | zero => exact ⟨⟨alike, number, rfl, rfl, rfl⟩, .cons first each⟩
      | succ quota =>
          obtain ⟨a, b, holds, holds', agree⟩ := first
          obtain ⟨result, after⟩ := execute_alike (s := s) alike a
          obtain ⟨result', after', -⟩ := execute_agree st' agree
          rw [after'] at after
          have result := result.trans result'
          have outputs := (s.execute st a).outputs_entries.trans
            (s.execute st' b).outputs_entries.symm
          have number : (s.execute st a).state.lineNumber = (s.execute st' b).state.lineNumber := by
            rw [execute_lineNumber, execute_lineNumber, number]
          simp only [advanceBy, holds, holds', ← result]
          cases (s.execute st a).result with
          | error c => exact ⟨⟨after, number, outputs, rfl, rfl⟩, each⟩
          | ok output =>
              cases output with
              | none =>
                  obtain ⟨same, left⟩ := ih (quota + 1) after number
                  exact ⟨same.preceded outputs, left⟩
              | some output =>
                  obtain ⟨same, left⟩ := ih quota after number
                  refine ⟨same.preceded ?_, left⟩
                  rw [List.filterMap_append, List.filterMap_append, outputs]

theorem alike_opening (alike : State.Alike st st') (source source' : Option Text) :
    State.Alike (s.opening st source) (s.opening st' source') ∧
      (s.opening st source).lineNumber = (s.opening st' source').lineNumber := by
  have opened := happen_alike (s := s) none alike (.opening source)
  have opened' := happen_alike (s := s) none (.refl st') (.opening source')
  exact ⟨opened.trans opened'.symm, rfl⟩

end Settings

namespace Feed

variable {s : Settings} {st st' : State}

inductive Agree (s : Settings) : Feed → Feed → Prop
  | waiting {x y : Stream} {source source' : Option Text}
      (opens : (Feed.waiting x).opens? = some source)
      (opens' : (Feed.waiting y).opens? = some source')
      (each : List.Forall₂ s.ItemsAgree ((Feed.waiting x).items s) ((Feed.waiting y).items s)) :
      Agree s (.waiting x) (.waiting y)
  | running {rest rest' : List Item} (each : List.Forall₂ s.ItemsAgree rest rest') :
      Agree s (.running rest) (.running rest')
  | spent : Agree s .spent .spent

theorem begin_agree (coloured : Bool) (quota : Nat) (alike : State.Alike st st')
    {items items' : List Item}
    (source source' : Option Text) (each : List.Forall₂ s.ItemsAgree items items') :
    (begin s coloured quota st items source).Agree
        (begin s coloured quota st' items' source') ∧
      List.Forall₂ s.ItemsAgree (begin s coloured quota st items source).rest
        (begin s coloured quota st' items' source').rest := by
  obtain ⟨opened, number⟩ := Settings.alike_opening (s := s) alike source source'
  obtain ⟨same, left⟩ := Settings.advanceBy_agree coloured quota opened number each
  refine ⟨⟨same.state, same.lineNumber, ?_, same.taken, same.ending⟩, left⟩
  rw [begin_outputs, begin_outputs, same.outputs]

theorem run_agree (coloured : Bool) {feed feed' : Feed} (agree : Agree s feed feed') (quota : Nat)
    (alike : State.Alike st st') (number : st.lineNumber = st'.lineNumber) :
    (feed.run s coloured quota st).Agree (feed'.run s coloured quota st') ∧
      List.Forall₂ s.ItemsAgree (feed.run s coloured quota st).rest
        (feed'.run s coloured quota st').rest := by
  cases agree with
  | waiting opens opens' each =>
      rw [run_of_opens? s coloured quota st opens, run_of_opens? s coloured quota st' opens']
      exact begin_agree coloured quota alike _ _ each
  | running each => exact Settings.advanceBy_agree coloured quota alike number each
  | spent => exact ⟨⟨alike, number, rfl, rfl, rfl⟩, .nil⟩

theorem resume_agree (coloured : Bool) {feed feed' : Feed} (agree : Agree s feed feed')
    (quota : Nat)
    (alike : State.Alike st st') (number : st.lineNumber = st'.lineNumber) :
    (feed.resume s coloured quota st).1.Agree (feed'.resume s coloured quota st').1 ∧
      Agree s (feed.resume s coloured quota st).2 (feed'.resume s coloured quota st').2 := by
  by_cases none_asked : quota = 0
  · subst none_asked
    exact ⟨⟨alike, number, rfl, rfl, rfl⟩, agree⟩
  · obtain ⟨same, left⟩ := run_agree coloured agree quota alike number
    rw [resume_of_ne_zero s coloured st feed none_asked,
      resume_of_ne_zero s coloured st' feed' none_asked]
    refine ⟨same, ?_⟩
    simp only [after, ← same.ending]
    cases (feed.run s coloured quota st).ending with
    | paused => exact .running left
    | finished => exact .spent
    | stopped why => exact .spent

end Feed

namespace Settings

theorem process_agree {s : Settings} {x y : Stream}
    (agree : Feed.Agree s (.waiting x) (.waiting y)) (coloured : Bool) (st : State) :
    (s.process coloured st x).Agree (s.process coloured st y) := by
  have enough : s.enough x = s.enough y := by
    cases agree with
    | waiting opens opens' each =>
        rw [s.enough_of_opens? opens, s.enough_of_opens? opens', each.length_eq]
  simp only [process, enough]
  exact (Feed.run_agree coloured agree _ (.refl st) rfl).1

/-- A line counts for the command that it gives and for nothing else: lines that agree one by one
are the same program, whether they are executed, processed, or taken from a source piece by piece;
and so a program may be normalised. -/
theorem process_normal (s : Settings) (standard : s.vocabulary = Vocabulary.standard)
    (coloured : Bool) (st : State) :
    (∀ lines others, List.Forall₂ s.vocabulary.Agree lines others → s.SameTurns st lines others) ∧
    (∀ x y, Feed.Agree s (.waiting x) (.waiting y) →
      (s.process coloured st x).Agree (s.process coloured st y)) ∧
    (∀ feed feed', Feed.Agree s feed feed' → ∀ st', State.Alike st st' →
      st.lineNumber = st'.lineNumber → ∀ quota,
        (feed.resume s coloured quota st).1.Agree (feed'.resume s coloured quota st').1 ∧
        Feed.Agree s (feed.resume s coloured quota st).2 (feed'.resume s coloured quota st').2) ∧
    ∀ lines, (∀ line ∈ lines, (Phrase.ofLine line).IsShort) →
      s.SameTurns st lines (lines.map s.vocabulary.normal) ∧
      ∀ source, Feed.Agree s (.waiting (.given (.items (lines.map .text)) source))
          (.waiting (.given (.items ((lines.map s.vocabulary.normal).map .text)) source)) ∧
        (s.process coloured st (.given (.items (lines.map .text)) source)).Agree
          (s.process coloured st
            (.given (.items ((lines.map s.vocabulary.normal).map .text)) source)) := by
  refine ⟨?_, ?_, ?_, ?_⟩
  · intro lines others each
    exact sameTurns_of_agree each
  · intro x y agree
    exact process_agree agree coloured st
  · intro feed feed' agree st' alike number quota
    exact Feed.resume_agree coloured agree quota alike number
  · intro lines short
    have each : List.Forall₂ s.vocabulary.Agree lines (lines.map s.vocabulary.normal) := by
      rw [standard]
      exact Vocabulary.forall_agree_normal short
    refine ⟨sameTurns_of_agree each, ?_⟩
    intro source
    have agree : Feed.Agree s (.waiting (.given (.items (lines.map .text)) source))
        (.waiting (.given (.items ((lines.map s.vocabulary.normal).map .text)) source)) :=
      .waiting rfl rfl (itemsAgree_text each)
    exact ⟨agree, process_agree agree coloured st⟩

theorem process_normal_padded :
    ∃ lines : List Text, (∀ line ∈ lines, (Phrase.ofLine line).IsShort) ∧
      lines.map standard.vocabulary.normal =
        ["DEPLOY 1,2,EAST".toList, [], "PIT 3,0".toList, [], "REPORT".toList] ∧
      standard.SameTurns State.initial lines (lines.map standard.vocabulary.normal) ∧
      (standard.before State.initial (lines.map standard.vocabulary.normal) 5).position =
        some ⟨1, 2⟩ ∧
      (standard.process true State.initial (.given (.items
        ((lines.map standard.vocabulary.normal).map .text)) none)).outputs =
          ["1,2,EAST".toList] := by
  let lines := [" DEPLOY +01,002,EAST\r\n".toList, "JUMP\n".toList, "PIT\t003,-0".toList,
    "REPORT x".toList, "\tREPORT".toList]
  have short : ∀ line ∈ lines, (Phrase.ofLine line).IsShort := by decide +kernel
  obtain ⟨-, -, -, normalised⟩ := process_normal standard rfl true State.initial
  obtain ⟨turns, processed⟩ := normalised lines short
  refine ⟨lines, short, by decide +kernel, turns, ?_, ?_⟩
  · rw [← turns.state 5]
    decide +kernel
  · rw [← (processed none).2.outputs]
    decide +kernel

end Settings

end Rover
