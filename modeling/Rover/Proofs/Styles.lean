import Rover.Styled
import Rover.Proofs.LineBreaks

namespace Rover

namespace Text

def NoEscape (s : Text) : Prop := escape ∉ s

instance : DecidablePred NoEscape := fun s => inferInstanceAs (Decidable (escape ∉ s))

variable {s t : Text}

@[simp] theorem noEscape_nil : NoEscape [] := List.not_mem_nil

@[simp] theorem noEscape_cons {c : Char} : NoEscape (c :: s) ↔ c ≠ escape ∧ NoEscape s := by
  simp only [NoEscape, List.mem_cons, not_or, ne_comm]

@[simp] theorem noEscape_append : NoEscape (s ++ t) ↔ NoEscape s ∧ NoEscape t := by
  simp only [NoEscape, List.mem_append, not_or]

@[simp] theorem noEscape_reverse : NoEscape s.reverse ↔ NoEscape s := by
  simp only [NoEscape, List.mem_reverse]

theorem NoEscape.mono (clear : NoEscape t) (sub : s ⊆ t) : NoEscape s :=
  fun member => clear (sub member)

theorem noEscape_of_forall (each : ∀ c ∈ s, c ≠ escape) : NoEscape s :=
  fun member => each escape member rfl

theorem NoEscape.flatMap {α : Type} {l : List α} {f : α → Text}
    (each : ∀ a ∈ l, NoEscape (f a)) : NoEscape (l.flatMap f) := by
  intro member
  obtain ⟨a, listed, inside⟩ := List.mem_flatMap.1 member
  exact each a listed inside

theorem noEscape_replicate {c : Char} (ne : c ≠ escape) (n : Nat) :
    NoEscape (List.replicate n c) := by
  intro member
  exact ne (List.eq_of_mem_replicate member).symm

theorem NoEscape.intercalate {sep : Text} {pieces : List Text} (clear : NoEscape sep)
    (each : ∀ piece ∈ pieces, NoEscape piece) : NoEscape (sep.intercalate pieces) := by
  induction pieces with
  | nil => simp
  | cons piece others ih =>
      obtain ⟨first, later⟩ := List.forall_mem_cons.1 each
      cases others with
      | nil => simpa using first
      | cons next others =>
          rw [List.intercalate_cons_cons, noEscape_append, noEscape_append]
          exact ⟨⟨first, clear⟩, ih later⟩

theorem subset_intercalate (sep : Text) {piece : Text} {pieces : List Text}
    (member : piece ∈ pieces) : piece ⊆ sep.intercalate pieces := by
  induction pieces with
  | nil => cases member
  | cons first others ih =>
      intro c inside
      cases others with
      | nil =>
          rw [List.mem_singleton.1 member] at inside
          simpa using inside
      | cons next others =>
          rw [List.intercalate_cons_cons, List.mem_append, List.mem_append]
          rcases List.mem_cons.1 member with rfl | later
          · exact .inl (.inl inside)
          · exact .inr (ih later inside)

theorem chomp_subset (s : Text) : chomp s ⊆ s := by
  obtain ⟨v, -, whole⟩ := exists_chomp s
  intro c member
  rw [whole]
  exact List.mem_append_left v member

theorem slice_subset (s : Text) (start stop : Int) : slice s start stop ⊆ s :=
  fun _ member => List.mem_of_mem_take (List.mem_of_mem_drop member)

theorem NoEscape.replace {new : Text} (clear : NoEscape s) (fresh : NoEscape new) (c : Char) :
    NoEscape (replace c new s) := by
  apply NoEscape.flatMap
  intro d member
  split
  · exact fresh
  · exact clear.mono (by simpa using member)

theorem NoEscape.escapeBreaks (clear : NoEscape s) : NoEscape (escapeBreaks s) :=
  (clear.replace (by decide) '\n').replace (by decide) '\r'

/-- What follows the code of a style: an opening bracket, parameters and a final `m`. -/
def afterStyle? : Text → Option Text
  | a :: b :: rest =>
      if a = escape ∧ b = '[' then
        match rest.dropWhile (between '0' '?') with
        | 'm' :: after => some after
        | _ => none
      else none
  | _ => none

theorem length_of_afterStyle? {s rest : Text} (h : afterStyle? s = some rest) :
    rest.length < s.length := by
  match s with
  | [] => cases h
  | [_] => cases h
  | a :: b :: tail =>
      have cut := length_dropWhile_le (between '0' '?') tail
      simp only [afterStyle?] at h
      split at h
      · split at h
        · rename_i after found
          cases h
          rw [found, List.length_cons] at cut
          simp only [List.length_cons]
          omega
        · cases h
      · cases h

def dropStyles : Text → Text
  | [] => []
  | c :: rest =>
      match h : afterStyle? (c :: rest) with
      | some after =>
          have := length_of_afterStyle? h
          dropStyles after
      | none => c :: dropStyles rest
termination_by s => s.length
decreasing_by
  · exact this
  · exact Nat.lt_succ_self _

theorem dropStyles_cons {c : Char} (ne : c ≠ escape) (rest : Text) :
    dropStyles (c :: rest) = c :: dropStyles rest := by
  have none : afterStyle? (c :: rest) = none := by
    cases rest with
    | nil => rfl
    | cons d tail => simp [afterStyle?, ne]
  rw [dropStyles]
  split
  · rename_i after found
    rw [none] at found
    cases found
  · rfl

theorem dropStyles_append (clear : NoEscape s) (rest : Text) :
    dropStyles (s ++ rest) = s ++ dropStyles rest := by
  induction s with
  | nil => rfl
  | cons c s ih =>
      obtain ⟨ne, later⟩ := noEscape_cons.1 clear
      rw [List.cons_append, dropStyles_cons ne, ih later]
      rfl

theorem dropStyles_nil : dropStyles [] = [] := by rw [dropStyles]

theorem dropStyles_code (parameters : Text)
    (each : parameters.all (between '0' '?') = true) (rest : Text) :
    dropStyles (escape :: '[' :: (parameters ++ 'm' :: rest)) = dropStyles rest := by
  have found : afterStyle? (escape :: '[' :: (parameters ++ 'm' :: rest)) = some rest := by
    have stop : between '0' '?' 'm' = false := by decide
    simp only [afterStyle?, and_self, if_true, List.dropWhile_cons, stop,
      List.dropWhile_append_of_pos (List.all_eq_true.1 each)]
    rfl
  rw [dropStyles]
  split
  · rename_i after found'
    obtain rfl := Option.some.inj (found.symm.trans found')
    rfl
  · rename_i missed
    rw [found] at missed
    cases missed

end Text

theorem Ink.dropStyles_opening (ink : Ink) (rest : Text) :
    Text.dropStyles (ink.opening ++ rest) = Text.dropStyles rest := by
  cases ink with
  | alert =>
      have first := Text.dropStyles_code ['3', '1'] (by decide)
        ("\x1b[1m".toList ++ rest)
      have second := Text.dropStyles_code ['1'] (by decide) rest
      exact first.trans second
  | header => exact Text.dropStyles_code ['3', '2'] (by decide) rest
  | accent => exact Text.dropStyles_code ['3', '3'] (by decide) rest

theorem Ink.dropStyles_closing (rest : Text) :
    Text.dropStyles (Ink.closing ++ rest) = Text.dropStyles rest :=
  Text.dropStyles_code ['0'] (by decide) rest

namespace Styled

open Text

@[simp] theorem text_append (s t : Styled) : text (s ++ t) = s.text ++ t.text :=
  List.flatMap_append ..

@[simp] theorem text_plain (s : Text) : (plain s).text = s := by simp [plain, text]

@[simp] theorem text_inked (ink : Ink) (s : Text) : (inked ink s).text = s := by
  simp [inked, text]

@[simp] theorem text_nil : text [] = [] := rfl

variable {s : Styled}

theorem dropStyles_render (clear : s.text.NoEscape) (coloured : Bool) (rest : Text) :
    dropStyles (s.render coloured ++ rest) = s.text ++ dropStyles rest := by
  induction s with
  | nil => rfl
  | cons span s ih =>
      have clear : NoEscape (span.text ++ text s) := clear
      obtain ⟨here, later⟩ := noEscape_append.1 clear
      have wrapped (after : Text) : dropStyles (render coloured [span] ++ after) =
          span.text ++ dropStyles after := by
        obtain ⟨ink, words⟩ := span
        cases coloured with
        | false => simpa [render] using dropStyles_append here after
        | true =>
            cases ink with
            | none => simpa [render] using dropStyles_append here after
            | some ink =>
                simp only [render, List.flatMap_cons, List.flatMap_nil, List.append_nil,
                  List.append_assoc]
                rw [ink.dropStyles_opening, dropStyles_append here, Ink.dropStyles_closing]
      have parts : render coloured (span :: s) = render coloured [span] ++ render coloured s :=
        render_append coloured [span] s
      rw [parts, List.append_assoc, wrapped, ih later]
      exact (List.append_assoc ..).symm

theorem dropStyles_printed (clear : s.text.NoEscape) (coloured : Bool) (rest : Text) :
    dropStyles (s.printed coloured ++ rest) = s.text ++ '\n' :: dropStyles rest := by
  have ended : dropStyles ('\n' :: rest) = '\n' :: dropStyles rest :=
    dropStyles_cons (by decide) rest
  cases coloured with
  | true =>
      simp only [printed, onTerminal, if_true, List.append_assoc]
      rw [dropStyles_render clear, List.singleton_append, ended]
  | false =>
      simp only [printed, onTerminal, render_false, dropControls_of_not_mem clear,
        Bool.false_eq_true, if_false, List.append_assoc]
      rw [dropStyles_append clear, List.singleton_append, ended]

theorem noEscape_entry {title : Text} {content : Styled} (header : title.NoEscape)
    (clear : content.text.NoEscape) (ink : Ink) (level : Int) (spaced : Bool) :
    (entry ink title content level spaced).text.NoEscape := by
  have tabs : NoEscape (List.replicate level.toNat '\t') := noEscape_replicate (by decide) _
  have lead : NoEscape (if spaced then ['\n'] else []) := by cases spaced <;> decide
  simp only [entry, text_append, text_plain, text_inked, noEscape_append]
  refine ⟨⟨⟨lead, tabs⟩, header⟩, ?_⟩
  split
  · exact noEscape_nil
  · rw [text_append, noEscape_append]
    exact ⟨by decide, clear⟩

end Styled

end Rover
