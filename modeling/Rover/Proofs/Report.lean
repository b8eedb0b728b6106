import Mathlib.Data.List.TakeWhile
import Rover.Wording

namespace Rover

namespace Template

variable {shown : Field → Except Flaw Text} {extras : Extras} {fields : Fields}

/-- A name that asks for a value and nothing of it. -/
structure IsPlain (name : Text) : Prop where
  ne_nil : name ≠ []
  bare : ∀ c ∈ name, c ∉ ['{', '}', ':', '!', '[', '.']
  named : readIndex name = .ok none

theorem expandWith_nil : expandWith shown [] = .ok [] := by rw [expandWith]

theorem expandWith_char {c : Char} (noOpening : c ≠ '{') (noClosing : c ≠ '}') (rest : Text) :
    expandWith shown (c :: rest) = (expandWith shown rest).map (c :: ·) := by
  rw [expandWith]
  · simp only [noOpening, noClosing, if_false]
    cases expandWith shown rest <;> rfl
  · intro tail eq _
    exact noOpening eq
  · intro tail eq _
    exact noClosing eq

theorem expandWith_field {s after : Text} {field : Field} (single : s.head? ≠ some '{')
    (cut : cutField s = .ok (field, after)) :
    expandWith shown ('{' :: s) =
      (do let t ← shown field; pure (t ++ (← expandWith shown after))) := by
  rw [expandWith]
  · simp only [Char.reduceEq, if_false, if_true]
    split
    · rename_i flaw h
      rw [cut] at h
      cases h
    · rename_i field' after' h
      rw [cut] at h
      obtain ⟨rfl, rfl⟩ := Prod.mk.inj (Except.ok.inj h)
      rfl
  · rintro tail - rfl
    exact single rfl
  · intro tail eq _
    cases eq

theorem cutName_bare {name : Text} (bare : ∀ c ∈ name, c ∉ ['{', '}', ':', '!', '[', '.'])
    (after : Text) : cutName false (name ++ '}' :: after) = .ok (name, '}', after) := by
  induction name with
  | nil => rfl
  | cons c rest ih =>
      have tail := ih fun d member => bare d (List.mem_cons_of_mem c member)
      have clear := bare c List.mem_cons_self
      simp only [List.mem_cons, List.not_mem_nil, or_false, not_or] at clear
      simp [cutName, clear, tail, bind, Except.bind, pure, Except.pure]

theorem IsPlain.cutField {name : Text} (plain : IsPlain name) (after : Text) :
    cutField (name ++ '}' :: after) = .ok (⟨name, none, []⟩, after) := by
  simp [Template.cutField, cutName_bare plain.bare, bind, Except.bind, pure, Except.pure]

theorem IsPlain.foundBy {name : Text} {v : Value} (plain : IsPlain name)
    (known : fields name = some v) : foundBy fields name = .ok (.value v) := by
  have all : name.takeWhile (!isAccess ·) = name :=
    List.takeWhile_eq_self_iff.2 fun c member => by
      have clear := plain.bare c member
      simp only [List.mem_cons, List.not_mem_nil, or_false, not_or] at clear
      simp [isAccess, clear]
  have rest : name.dropWhile (!isAccess ·) = [] := by
    have whole := List.takeWhile_append_dropWhile (p := (!isAccess ·)) (l := name)
    rw [all] at whole
    exact List.append_right_eq_self.1 whole
  simp only [Template.foundBy, all, plain.named, rest, plain.ne_nil, known, bind, Except.bind,
    if_false]
  rw [follow]

theorem expandWith_name {expand : Text → Except Flaw Text} {name : Text} {v : Value}
    (plain : IsPlain name) (known : fields name = some v) (after : Text) :
    expandWith (showField extras fields expand) ('{' :: (name ++ '}' :: after)) =
      (do let t ← v.plain
          pure (t ++ (← expandWith (showField extras fields expand) after))) := by
  have shown : showField extras fields expand ⟨name, none, []⟩ = v.plain := by
    simp [showField, plain.foundBy known, Found.lay, convert, Value.lay, bind, Except.bind, pure,
      Except.pure]
  rw [expandWith_field _ (plain.cutField after), shown]
  obtain ⟨c, rest, rfl⟩ := List.exists_cons_of_ne_nil plain.ne_nil
  have clear := plain.bare c List.mem_cons_self
  simp only [List.mem_cons, not_or] at clear
  simpa using clear.1

end Template

namespace Wording

open Template

theorem isPlain_x : IsPlain ['x'] := ⟨by simp, by simp, rfl⟩

theorem isPlain_y : IsPlain ['y'] := ⟨by simp, by simp, rfl⟩

theorem isPlain_direction : IsPlain "direction".toList := ⟨by simp, by simp, rfl⟩

theorem reportOf_standard {w : Wording} (usual : w.report = standard.report) (p : Pose) :
    w.reportOf p =
      if p.cell.IsWritable then .ok (p.cell.text ++ ',' :: p.heading.label)
      else .error .malformed := by
  have split : w.reportOf p =
      expandWith (showField w.extras (fields p) (expandTo w.extras (fields p) 1))
        ('{' :: (['x'] ++ '}' :: ',' :: '{' :: (['y'] ++ '}' :: ',' :: '{' ::
          ("direction".toList ++ ['}'])))) := by
    rw [reportOf, usual]
    rfl
  rw [split, expandWith_name isPlain_x (v := .number p.cell.x) rfl,
    expandWith_char (by decide) (by decide),
    expandWith_name isPlain_y (v := .number p.cell.y) rfl,
    expandWith_char (by decide) (by decide),
    expandWith_name isPlain_direction (v := .text p.heading.label) rfl, expandWith_nil]
  by_cases hx : Numeral.Writable p.cell.x <;> by_cases hy : Numeral.Writable p.cell.y <;>
    simp [Value.plain, decimal, Cell.IsWritable, hx, hy, Cell.text, bind, Except.bind, pure,
      Except.pure, Except.map]

end Wording

end Rover
