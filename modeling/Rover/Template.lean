import Rover.Template.Layout
import Rover.Text.Escape

namespace Rover.Template

/-- A field between braces: a name, a conversion, and a layout that may hold fields itself. -/
structure Field where
  name : Text
  conversion : Option Char
  layout : Text
  deriving DecidableEq, Repr

/-- Cuts off the name of a field and gives the mark that ends it. Marks between brackets belong to
the name. -/
def cutName : Bool → Text → Except Flaw (Text × Char × Text)
  | _, [] => .error .malformed
  | true, c :: rest => do
      let (name, mark, after) ← cutName (!decide (c = ']')) rest
      pure (c :: name, mark, after)
  | false, c :: rest =>
      if c = '{' then .error .malformed
      else if c = '}' || c = ':' || c = '!' then .ok ([], c, rest)
      else do
        let (name, mark, after) ← cutName (c = '[') rest
        pure (c :: name, mark, after)

def cutLayout : Nat → Text → Except Flaw (Text × Text)
  | _, [] => .error .malformed
  | opened, c :: rest =>
      if c = '}' && opened = 0 then .ok ([], rest)
      else do
        let (layout, after) ← cutLayout
          (if c = '}' then opened - 1 else if c = '{' then opened + 1 else opened) rest
        pure (c :: layout, after)

def cutField (s : Text) : Except Flaw (Field × Text) := do
  let (name, mark, rest) ← cutName false s
  if mark = '}' then pure (⟨name, none, []⟩, rest)
  else if mark = ':' then
    let (layout, rest) ← cutLayout 0 rest
    pure (⟨name, none, layout⟩, rest)
  else match rest with
    | conversion :: '}' :: rest => pure (⟨name, some conversion, []⟩, rest)
    | conversion :: ':' :: rest =>
        let (layout, rest) ← cutLayout 0 rest
        pure (⟨name, some conversion, layout⟩, rest)
    | _ => .error .malformed

theorem length_of_cutName {inside : Bool} {s name after : Text} {mark : Char}
    (h : cutName inside s = .ok (name, mark, after)) : after.length < s.length := by
  induction s generalizing inside name with
  | nil => cases inside <;> simp [cutName] at h
  | cons c rest ih =>
      cases inside <;> simp only [cutName] at h
      · split at h
        · simp at h
        · split at h
          · simp only [Except.ok.injEq, Prod.mk.injEq] at h
            obtain ⟨-, -, rfl⟩ := h
            simp
          · cases hr : cutName (decide (c = '[')) rest with
            | error e => simp [hr, bind, Except.bind] at h
            | ok found =>
                obtain ⟨tail, m, left⟩ := found
                simp only [hr, bind, Except.bind, pure, Except.pure, Except.ok.injEq,
                  Prod.mk.injEq] at h
                obtain ⟨-, rfl, rfl⟩ := h
                have := ih hr
                simp only [List.length_cons]
                omega
      · cases hr : cutName (!decide (c = ']')) rest with
        | error e => simp [hr, bind, Except.bind] at h
        | ok found =>
            obtain ⟨tail, m, left⟩ := found
            simp only [hr, bind, Except.bind, pure, Except.pure, Except.ok.injEq,
              Prod.mk.injEq] at h
            obtain ⟨-, rfl, rfl⟩ := h
            have := ih hr
            simp only [List.length_cons]
            omega

theorem length_of_cutLayout {opened : Nat} {s layout after : Text}
    (h : cutLayout opened s = .ok (layout, after)) : after.length < s.length := by
  induction s generalizing opened layout with
  | nil => simp [cutLayout] at h
  | cons c rest ih =>
      simp only [cutLayout] at h
      split at h
      · simp only [Except.ok.injEq, Prod.mk.injEq] at h
        obtain ⟨-, rfl⟩ := h
        simp
      · cases hr : cutLayout (if c = '}' then opened - 1 else if c = '{' then opened + 1
            else opened) rest with
        | error e => simp [hr, bind, Except.bind] at h
        | ok found =>
            obtain ⟨tail, left⟩ := found
            simp only [hr, bind, Except.bind, pure, Except.pure, Except.ok.injEq,
              Prod.mk.injEq] at h
            obtain ⟨-, rfl⟩ := h
            have := ih hr
            simp only [List.length_cons]
            omega

theorem length_of_cutField {s after : Text} {f : Field}
    (h : cutField s = .ok (f, after)) : after.length < s.length := by
  simp only [cutField] at h
  cases hn : cutName false s with
  | error e => simp [hn, bind, Except.bind] at h
  | ok found =>
      obtain ⟨name, mark, rest⟩ := found
      have cut := length_of_cutName hn
      simp only [hn, bind, Except.bind, pure, Except.pure] at h
      split at h
      · simp only [Except.ok.injEq, Prod.mk.injEq] at h
        obtain ⟨-, rfl⟩ := h
        exact cut
      · split at h
        · cases hl : cutLayout 0 rest with
          | error e => simp [hl] at h
          | ok found =>
              obtain ⟨layout, left⟩ := found
              simp only [hl, Except.ok.injEq, Prod.mk.injEq] at h
              obtain ⟨-, rfl⟩ := h
              have := length_of_cutLayout hl
              omega
        · split at h
          · simp only [Except.ok.injEq, Prod.mk.injEq] at h
            obtain ⟨-, rfl⟩ := h
            simp only [List.length_cons] at cut
            omega
          · rename_i conversion tail
            cases hl : cutLayout 0 tail with
            | error e => simp [hl] at h
            | ok found =>
                obtain ⟨layout, left⟩ := found
                simp only [hl, Except.ok.injEq, Prod.mk.injEq] at h
                obtain ⟨-, rfl⟩ := h
                have := length_of_cutLayout hl
                simp only [List.length_cons] at cut
                omega
          · simp at h

def expandWith (shown : Field → Except Flaw Text) : Text → Except Flaw Text
  | [] => .ok []
  | '{' :: '{' :: rest => do pure ('{' :: (← expandWith shown rest))
  | '}' :: '}' :: rest => do pure ('}' :: (← expandWith shown rest))
  | c :: rest =>
      if c = '}' then .error .malformed
      else if c = '{' then
        match h : cutField rest with
        | .error flaw => .error flaw
        | .ok (field, after) => do
            have := length_of_cutField h
            let s ← shown field
            pure (s ++ (← expandWith shown after))
      else do pure (c :: (← expandWith shown rest))
termination_by s => s.length

def readIndex (s : Text) : Except Flaw (Option Nat) := do
  match ← readCount none s with
  | (some n, []) => pure (some n)
  | _ => pure none

def memberOf : Value → Text → Option Value
  | .number n, name =>
      if name = "real".toList || name = "numerator".toList then some (.number n)
      else if name = "imag".toList then some (.number 0)
      else if name = "denominator".toList then some (.number 1)
      else none
  | .text _, _ => none

def itemOf : Value → Option Nat → Except Flaw Value
  | .number _, _ => .error .noItems
  | .text _, none => .error .noItems
  | .text s, some i =>
      match s[i]? with
      | some c => .ok (.text [c])
      | none => .error .outOfRange

def isAccess (c : Char) : Bool := c = '.' || c = '['

/-- What a name leads to: a value, or a member of one that is not a value, with the rest of the name
from that member on. -/
inductive Found where
  | value (v : Value)
  | extra (v : Value) (path : Text)
  deriving DecidableEq, Repr

def follow (v : Value) : Text → Except Flaw Found
  | [] => .ok (.value v)
  | c :: rest =>
      if c = '.' then
        have := Text.length_dropWhile_le (!isAccess ·) rest
        match rest.takeWhile (!isAccess ·) with
        | [] => .error .malformed
        | name =>
            match memberOf v name with
            | none => .ok (.extra v (c :: rest))
            | some w => follow w (rest.dropWhile (!isAccess ·))
      else if c = '[' then
        match h : rest.dropWhile (· ≠ ']') with
        | [] => .error .malformed
        | _ :: after => do
            have : after.length < rest.length := by
              have cut := Text.length_dropWhile_le (· ≠ ']') rest
              rw [h, List.length_cons] at cut
              omega
            let key := rest.takeWhile (· ≠ ']')
            let index ← readIndex key
            if key = [] then .error .malformed
            else
              let w ← itemOf v index
              follow w after
      else .error .malformed
termination_by s => s.length

abbrev Fields := Text → Option Value

def foundBy (fields : Fields) (name : Text) : Except Flaw Found := do
  let first := name.takeWhile (!isAccess ·)
  match ← readIndex first with
  | some _ => .error .noPosition
  | none =>
      if first = [] then .error .noPosition
      else match fields first with
        | none => .error .unknownField
        | some v => follow v (name.dropWhile (!isAccess ·))

def convert (conversion : Option Char) (v : Value) : Except Flaw Value :=
  match conversion, v with
  | none, v => .ok v
  | some 's', v => Value.text <$> v.plain
  | some 'r', .text s => .ok (.text (Text.quoted s))
  | some 'a', .text s => .ok (.text (Text.quoted s))
  | some 'r', .number n => Value.text <$> decimal n
  | some 'a', .number n => Value.text <$> decimal n
  | some _, _ => .error .malformed

def Found.lay (extras : Extras) (conversion : Option Char) :
    Found → Except Flaw (Text → Except Flaw Text)
  | .value v => do
      let v ← convert conversion v
      pure (v.lay extras)
  | .extra v path => extras.member v path conversion

def showField (extras : Extras) (fields : Fields) (expand : Text → Except Flaw Text) (f : Field) :
    Except Flaw Text := do
  let found ← foundBy fields f.name
  let lay ← found.lay extras f.conversion
  let layout ← if '{' ∈ f.layout then expand f.layout else pure f.layout
  lay layout

def expandTo (extras : Extras) (fields : Fields) : Nat → Text → Except Flaw Text
  | 0, _ => .error .malformed
  | depth + 1, s => expandWith (showField extras fields (expandTo extras fields depth)) s

/-- The text of a template. A layout may hold fields, but those have plain layouts. -/
def expand (extras : Extras) (fields : Fields) (s : Text) : Except Flaw Text :=
  expandTo extras fields 2 s

end Rover.Template
