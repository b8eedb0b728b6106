import Mathlib.Data.List.Forall2
import Rover.Proofs.Cuts
import Rover.Proofs.Interleaving

namespace Rover

namespace Stretch

def warnings (x : Stretch) : List Text := x.log.filterMap Entry.warning?

structure Same (x y : Stretch) : Prop where
  state : State.Alike x.state y.state
  lineNumber : x.state.lineNumber = y.state.lineNumber
  outputs : x.outputs = y.outputs
  warnings : x.warnings = y.warnings
  taken : x.taken = y.taken
  ending : x.ending = y.ending

theorem Same.preceded {x y : Stretch} (same : Same x y) {entries entries' : List Entry}
    (outputs : entries.filterMap Entry.output? = entries'.filterMap Entry.output?)
    (warnings : entries.filterMap Entry.warning? = entries'.filterMap Entry.warning?) :
    Same (x.preceded entries) (y.preceded entries') where
  state := same.state
  lineNumber := same.lineNumber
  outputs := by rw [Settings.outputs_preceded, Settings.outputs_preceded, outputs, same.outputs]
  warnings := by
    have warned := same.warnings
    simp only [Stretch.warnings, Stretch.preceded, List.filterMap_append, warnings] at warned ⊢
    rw [warned]
  taken := congrArg (· + 1) same.taken
  ending := same.ending

end Stretch

namespace Settings

variable {s : Settings} {st st' : State}

theorem execute_chomp (line : Text) : s.execute st (Text.chomp line) = s.execute st line := by
  simp only [execute, warningsOf, placeOf, Vocabulary.read_chomp, Text.chomp_chomp]

theorem execute_same (alike : State.Alike st st') (number : st.lineNumber = st'.lineNumber)
    {line line' : Text} (chomped : Text.chomp line = Text.chomp line') :
    (s.execute st line).result = (s.execute st' line').result ∧
      State.Alike (s.execute st line).state (s.execute st' line').state ∧
      (s.execute st line).state.lineNumber = (s.execute st' line').state.lineNumber ∧
      (s.execute st line).warnings = (s.execute st' line').warnings := by
  have same : s.execute st' line' = s.execute st' line := by
    rw [← execute_chomp, ← chomped, execute_chomp]
  obtain ⟨result, state⟩ := execute_alike (s := s) alike line
  rw [same, execute_lineNumber, execute_lineNumber, execute_warnings, execute_warnings, number]
  exact ⟨result, state, rfl, rfl⟩

variable (s) in
def chompedOf (item : Item) : Except (Option Text) Text := (s.lineOf item).map Text.chomp

theorem lineOf_of_chompedOf {item : Item} {line : Text} (holds : s.chompedOf item = .ok line) :
    ∃ whole, s.lineOf item = .ok whole ∧ Text.chomp whole = line := by
  unfold chompedOf at holds
  cases given : s.lineOf item with
  | error cause =>
      rw [given] at holds
      cases holds
  | ok whole =>
      rw [given] at holds
      exact ⟨whole, rfl, Except.ok.inj holds⟩

theorem advanceBy_same (coloured : Bool) (quota : Nat) (alike : State.Alike st st')
    (number : st.lineNumber = st'.lineNumber) {items items' : List Item} {lines : List Text}
    (holds : items.map s.chompedOf = lines.map .ok)
    (holds' : items'.map s.chompedOf = lines.map .ok) :
    (s.advanceBy coloured quota st items).Same (s.advanceBy coloured quota st' items') := by
  induction lines generalizing quota st st' items items' with
  | nil =>
      obtain rfl := List.map_eq_nil_iff.1 holds
      obtain rfl := List.map_eq_nil_iff.1 holds'
      cases quota with
      | zero => exact ⟨alike, number, rfl, rfl, rfl, rfl⟩
      | succ quota => exact ⟨alike, number, rfl, rfl, rfl, rfl⟩
  | cons line lines ih =>
      obtain ⟨item, rest, rfl, first, others⟩ := List.map_eq_cons_iff.1 holds
      obtain ⟨item', rest', rfl, first', others'⟩ := List.map_eq_cons_iff.1 holds'
      obtain ⟨whole, given, chomped⟩ := lineOf_of_chompedOf first
      obtain ⟨whole', given', chomped'⟩ := lineOf_of_chompedOf first'
      obtain ⟨result, state, later, warned⟩ :=
        execute_same (s := s) alike number (chomped.trans chomped'.symm)
      cases quota with
      | zero => exact ⟨alike, number, rfl, rfl, rfl, rfl⟩
      | succ quota =>
          have outputs := (s.execute st whole).outputs_entries.trans
            (s.execute st' whole').outputs_entries.symm
          have warnings : (s.execute st whole).entries.filterMap Entry.warning? =
              (s.execute st' whole').entries.filterMap Entry.warning? := by
            rw [Turn.warnings_entries, Turn.warnings_entries, warned]
          simp only [advanceBy, given, given', ← result]
          cases (s.execute st whole).result with
          | error c => exact ⟨state, later, outputs, warnings, rfl, rfl⟩
          | ok output =>
              cases output with
              | none => exact (ih (quota + 1) state later others others').preceded outputs warnings
              | some output =>
                  apply (ih quota state later others others').preceded
                  · simp only [List.filterMap_append, outputs]
                  · simp only [List.filterMap_append, warnings]

theorem process_same (coloured : Bool) (st : State) {x y : Stream} {source source' : Option Text}
    {lines : List Text} (opens : (Feed.waiting x).opens? = some source)
    (opens' : (Feed.waiting y).opens? = some source')
    (holds : ((Feed.waiting x).items s).map s.chompedOf = lines.map .ok)
    (holds' : ((Feed.waiting y).items s).map s.chompedOf = lines.map .ok) :
    (s.process coloured st x).Same (s.process coloured st y) := by
  have length : ((Feed.waiting x).items s).length = ((Feed.waiting y).items s).length := by
    have count := congrArg List.length (holds.trans holds'.symm)
    simpa using count
  have alike : State.Alike (s.opening st source) (s.opening st source') := by
    unfold opening
    exact ⟨rfl, rfl, rfl, rfl, rfl⟩
  rw [s.process_eq_begin coloured st opens, s.process_eq_begin coloured st opens', length]
  have same :=
    advanceBy_same coloured (((Feed.waiting y).items s).length + 1) alike rfl holds holds'
  refine ⟨same.state, same.lineNumber, ?_, ?_, same.taken, same.ending⟩
  · rw [Feed.begin_outputs, Feed.begin_outputs, same.outputs]
  · have warned := same.warnings
    simp only [Feed.begin, Stretch.warnings, List.filterMap_append] at warned ⊢
    rw [warned]

end Settings

inductive Item.Gives : Text → Item → Prop
  | text (line : Text) : Gives line (.text line)
  | raw (line : Text) : Gives line (.raw line.utf8)

/-- The ways to give a text to a rover. The last three cut it after line feeds or at its own line
ends, and keep them. -/
inductive Renders (t : Text) : Stream → Prop
  | text (source : Option Text) : Renders t (.given (.text t) source)
  | raw (source : Option Text) : Renders t (.given (.raw t.utf8) source)
  | file (name : Text) : Renders t (.file name (.ok t.utf8))
  | textStream (paired : t.ReturnsPaired) (source : Option Text) :
      Renders t (.given (.textStream t) source)
  | rawStream (paired : t.ReturnsPaired) (source : Option Text) :
      Renders t (.given (.rawStream t.utf8) source)
  | lines (paired : t.ReturnsPaired) {items : List Item}
      (each : List.Forall₂ Item.Gives t.linesWithEnds items) (source : Option Text) :
      Renders t (.given (.items items) source)

namespace Renders

variable {s : Settings} {t : Text} {stream : Stream}

theorem opens (renders : Renders t stream) :
    ∃ source, (Feed.waiting stream).opens? = some source := by
  cases renders <;> exact ⟨_, rfl⟩

theorem chompedOf_raw (utf8 : s.encoding = .utf8) (line : Text) :
    s.chompedOf (.raw line.utf8) = .ok (Text.chomp line) := by
  simp only [Settings.chompedOf, Settings.lineOf, utf8, Encoding.decode_utf8]
  rfl

theorem chompedOf_each (utf8 : s.encoding = .utf8) {lines : List Text} {items : List Item}
    (each : List.Forall₂ Item.Gives lines items) :
    items.map s.chompedOf = (lines.map Text.chomp).map .ok := by
  induction each with
  | nil => rfl
  | @cons line item lines items first others ih =>
      rw [List.map_cons, ih]
      cases first with
      | text => rfl
      | raw =>
          rw [chompedOf_raw utf8]
          rfl

theorem each_text (lines : List Text) : List.Forall₂ Item.Gives lines (lines.map .text) := by
  induction lines with
  | nil => exact .nil
  | cons line lines ih => exact .cons (.text line) ih

theorem each_raw (lines : List Text) :
    List.Forall₂ Item.Gives lines ((lines.map Text.utf8).map .raw) := by
  induction lines with
  | nil => exact .nil
  | cons line lines ih => exact .cons (.raw line) ih

theorem map_chompedOf (utf8 : s.encoding = .utf8) (only : t.HasOnlyLineEnds)
    (renders : Renders t stream) :
    ((Feed.waiting stream).items s).map s.chompedOf = (Text.lines t).map .ok := by
  have plain := only.plain
  have bare : (Text.lines t).map Text.chomp = Text.lines t :=
    (List.map_congr_left fun line member =>
      Text.chomp_eq_self (Text.clear_of_mem_lines member)).trans (List.map_id _)
  cases renders with
  | text source => exact (chompedOf_each utf8 (each_text _)).trans (by rw [bare])
  | raw source =>
      change ((Text.rawLines t.utf8).map Item.raw).map s.chompedOf = _
      rw [Text.rawLines_utf8 plain]
      exact (chompedOf_each utf8 (each_raw _)).trans (by rw [bare])
  | file name =>
      change (s.encoding.fileItems t.utf8).map s.chompedOf = _
      rw [utf8, Encoding.fileItems_of_decode (Encoding.decode_utf8 t),
        chompedOf_each utf8 (each_text _), ← Text.lines_uniformBreaks only,
        Text.lines_uniform plain]
  | textStream paired source =>
      rw [← Text.map_chomp_cutAfter plain paired]
      exact chompedOf_each utf8 (each_text _)
  | rawStream paired source =>
      change ((Text.cutAfter 0x0A t.utf8).map Item.raw).map s.chompedOf = _
      rw [Text.cutAfter_utf8, ← Text.map_chomp_cutAfter plain paired]
      exact chompedOf_each utf8 (each_raw _)
  | lines paired each source =>
      rw [← Text.map_chomp_cutAfter plain paired, ← Text.linesWithEnds_eq_cutAfter plain paired]
      exact chompedOf_each utf8 each

end Renders

/-- A text is one and the same stream of lines however it is given: whole, as its bytes, as a file
of these bytes, and, if no carriage return stands alone, as a stream of either or as its lines. -/
theorem Settings.process_renderings (s : Settings) (utf8 : s.encoding = .utf8) (coloured : Bool)
    (st : State) {t : Text} (only : t.HasOnlyLineEnds) {x y : Stream} (first : Renders t x)
    (second : Renders t y) : (s.process coloured st x).Same (s.process coloured st y) := by
  obtain ⟨source, opens⟩ := first.opens
  obtain ⟨source', opens'⟩ := second.opens
  exact process_same coloured st opens opens' (first.map_chompedOf utf8 only)
    (second.map_chompedOf utf8 only)

theorem Settings.process_renderings_mixed :
    ∃ (s : Settings) (t : Text) (x y : Stream), s.encoding = .utf8 ∧ t.HasOnlyLineEnds ∧
      Renders t x ∧ Renders t y ∧
      (s.process false State.initial x).Same (s.process false State.initial y) ∧
      (s.process false State.initial x).outputs = ["0,0,NORTH".toList] ∧
      (s.process false State.initial y).warnings =
        ["Skipping line 2:\"JÜMP\": unknown command 'JÜMP'".toList,
          "Skipping line 3:\"\": unknown command ''".toList] := by
  let s := Settings.standard
  let t : Text := "DEPLOY 0,0,NORTH\r\nJÜMP\r\n\nREPORT".toList
  let x : Stream := .given (.items [.text "DEPLOY 0,0,NORTH\r\n".toList,
    .raw (Text.utf8 "JÜMP\r\n".toList), .text "\n".toList, .raw (Text.utf8 "REPORT".toList)]) none
  let y : Stream := .file "program".toList (.ok t.utf8)
  have only : t.HasOnlyLineEnds := by decide +kernel
  have paired : t.ReturnsPaired := by decide +kernel
  have first : Renders t x :=
    .lines paired (.cons (.text _) (.cons (.raw _) (.cons (.text _) (.cons (.raw _) .nil)))) none
  have second : Renders t y := .file _
  have same := Settings.process_renderings s rfl false State.initial only first second
  refine ⟨s, t, x, y, rfl, only, first, second, same, by decide +kernel, ?_⟩
  rw [← same.warnings]
  decide +kernel

end Rover
