import Mathlib.Tactic.SplitIfs
import Rover.Stream

namespace Rover.Encoding

theorem flatten_pieces (size : Nat) (content : Bytes) (n : Nat) :
    ((List.range n).map fun i => (content.drop (i * size)).take size).flatten =
      content.take (n * size) := by
  induction n with
  | zero => simp
  | succ n ih =>
      rw [List.range_succ, List.map_append, List.flatten_append, ih, Nat.succ_mul, List.take_add]
      simp

theorem flatten_chunks (content : Bytes) : (chunks content).flatten = content := by
  unfold chunks
  rw [flatten_pieces, List.take_of_length_le]
  have enough := Nat.div_add_mod (content.length + chunkSize - 1) chunkSize
  have left := Nat.mod_lt (content.length + chunkSize - 1) (by decide : 0 < chunkSize)
  rw [Nat.mul_comm] at enough
  simp only [chunkSize] at *
  omega

theorem chunks_eq_singleton {content : Bytes} (ne : content ≠ [])
    (small : content.length ≤ chunkSize) : chunks content = [content] := by
  have one : (content.length + chunkSize - 1) / chunkSize = 1 := by
    have := List.length_pos_iff.2 ne
    simp only [chunkSize] at *
    omega
  simp [chunks, one, List.take_of_length_le small]

variable {e : Encoding} {a : UInt8} {rest more : Bytes} {c : Char} {size : Nat}

theorem size_pos_of_step (read : e.step a rest = .char c size) : 0 < size := by
  cases e with
  | utf8 =>
      simp only [step] at read
      unfold stepUtf8 at read
      grind
  | ascii =>
      simp only [step] at read
      split at read <;> simp_all
      omega
  | latin1 =>
      simp only [step] at read
      cases read
      decide

theorem step_append (read : e.step a rest = .char c size) (more : Bytes) :
    e.step a (rest ++ more) = .char c size := by
  cases e with
  | utf8 =>
      simp only [step] at read ⊢
      match rest with
      | [] =>
          simp only [stepUtf8, List.nil_append] at read ⊢
          grind
      | [b] =>
          simp only [stepUtf8, List.nil_append, List.cons_append] at read ⊢
          grind
      | [b, b'] =>
          simp only [stepUtf8, List.nil_append, List.cons_append] at read ⊢
          grind
      | b :: b' :: b'' :: rest =>
          simp only [stepUtf8, List.cons_append] at read ⊢
          grind
  | ascii => exact read
  | latin1 => exact read

theorem step_of_append (read : e.step a (rest ++ more) = .char c size) :
    size ≤ rest.length + 1 ∧ e.step a rest = .char c size ∨
      ∃ k, e.step a rest = .bad k .truncated := by
  cases e with
  | utf8 =>
      simp only [step] at read ⊢
      match rest with
      | [] =>
          simp only [stepUtf8, List.nil_append] at read ⊢
          grind
      | [b] =>
          simp only [stepUtf8, List.nil_append, List.cons_append] at read ⊢
          grind
      | [b, b'] =>
          simp only [stepUtf8, List.nil_append, List.cons_append] at read ⊢
          grind
      | b :: b' :: b'' :: rest =>
          simp only [stepUtf8, List.cons_append] at read ⊢
          grind
  | ascii =>
      refine .inl ⟨?_, read⟩
      simp only [step] at read
      split at read <;> simp_all
  | latin1 =>
      refine .inl ⟨?_, read⟩
      cases read
      omega

def Flaw.shift (f : Flaw) (n : Nat) : Flaw := { f with position := f.position + n }

theorem decodeFrom_skip (e : Encoding) (position : Nat) (tail rest : Bytes) :
    e.decodeFrom position tail.length (tail ++ rest) =
      e.decodeFrom (position + tail.length) 0 rest := by
  induction tail generalizing position with
  | nil => rfl
  | cons a tail ih =>
      rw [List.length_cons, List.cons_append, decodeFrom, ih, Nat.add_right_comm, Nat.add_assoc]

theorem decodeFrom_add (e : Encoding) (position n skip : Nat) (raw : Bytes) :
    e.decodeFrom (position + n) skip raw =
      ((e.decodeFrom position skip raw).1,
        (e.decodeFrom position skip raw).2.map fun f => f.shift n) := by
  induction raw generalizing position skip with
  | nil => rfl
  | cons a rest ih =>
      cases skip with
      | succ skip =>
          rw [decodeFrom, decodeFrom, Nat.add_right_comm, ih]
      | zero =>
          rw [decodeFrom, decodeFrom]
          cases e.step a rest with
          | bad size defect => rfl
          | char c size =>
              dsimp only
              rw [Nat.add_right_comm, ih]

theorem decodeUntilFlaw_cons {tail : Bytes}
    (read : e.step a (tail ++ rest) = .char c (tail.length + 1)) :
    e.decodeUntilFlaw (a :: (tail ++ rest)) =
      (c :: (e.decodeUntilFlaw rest).1,
        (e.decodeUntilFlaw rest).2.map fun f => f.shift (tail.length + 1)) := by
  rw [decodeUntilFlaw, decodeFrom, read]
  dsimp only
  rw [Nat.add_sub_cancel, decodeFrom_skip, Nat.add_assoc, Nat.add_comm 1, decodeFrom_add]
  rfl

theorem decodeUntilFlaw_bad {defect : Defect} (read : e.step a rest = .bad size defect) :
    e.decodeUntilFlaw (a :: rest) = ([], some ⟨e, a, 0, size, defect⟩) := by
  rw [decodeUntilFlaw, decodeFrom, read]

theorem step_cases (e : Encoding) (a : UInt8) (raw : Bytes) :
    (∃ k defect, e.step a raw = .bad k defect) ∨
      ∃ tail rest c, raw = tail ++ rest ∧ e.step a (tail ++ rest) = .char c (tail.length + 1) := by
  cases read : e.step a raw with
  | bad k defect => exact .inl ⟨k, defect, rfl⟩
  | char c size =>
      have positive := size_pos_of_step read
      have whole : e.step a (raw ++ []) = .char c size := by rwa [List.append_nil]
      rcases step_of_append whole with ⟨fits, -⟩ | ⟨k, bad⟩
      · have length : (raw.take (size - 1)).length + 1 = size := by
          rw [List.length_take]
          omega
        refine .inr ⟨raw.take (size - 1), raw.drop (size - 1), c, ?_, ?_⟩
        · rw [List.take_append_drop]
        · rw [List.take_append_drop, read, length]
      · rw [read] at bad
        cases bad

@[elab_as_elim] theorem decode_induction (e : Encoding) {motive : Bytes → Prop} (nil : motive [])
    (bad : ∀ a raw k defect, e.step a raw = .bad k defect → motive (a :: raw))
    (char : ∀ a tail rest c, e.step a (tail ++ rest) = .char c (tail.length + 1) → motive rest →
      motive (a :: (tail ++ rest))) : ∀ raw, motive raw
  | [] => nil
  | a :: raw => by
      rcases e.step_cases a raw with ⟨k, defect, stuck⟩ | ⟨tail, rest, c, rfl, read⟩
      · exact bad a raw k defect stuck
      · exact char a tail rest c read (decode_induction e nil bad char rest)
termination_by raw => raw.length

theorem drop_shift (a : UInt8) (tail rest : Bytes) (flaw : Flaw) :
    (a :: (tail ++ rest)).drop (flaw.shift (tail.length + 1)).position =
      rest.drop flaw.position := by
  rw [Flaw.shift, ← Nat.add_assoc, List.drop_succ_cons, Nat.add_comm, List.drop_length_add_append]

theorem decodeUntilFlaw_drop {raw : Bytes} {s : Text} {flaw : Flaw}
    (flawed : e.decodeUntilFlaw raw = (s, some flaw)) :
    e.decodeUntilFlaw (raw.drop flaw.position) = ([], some { flaw with position := 0 }) := by
  induction raw using e.decode_induction generalizing s flaw with
  | nil => cases flawed
  | bad a raw k defect stuck =>
      rw [decodeUntilFlaw_bad stuck] at flawed
      obtain ⟨rfl, same⟩ := Prod.mk.inj flawed
      obtain rfl := Option.some.inj same
      exact decodeUntilFlaw_bad stuck
  | char a tail rest c read ih =>
      rw [decodeUntilFlaw_cons read] at flawed
      obtain ⟨rfl, found⟩ := Prod.mk.inj flawed
      obtain ⟨inner, there, rfl⟩ := Option.map_eq_some_iff.1 found
      rw [drop_shift]
      exact ih (Prod.ext rfl there)

/-- What the bytes before a point leave undecided there, to be put before the next ones. -/
def undecided (e : Encoding) (raw : Bytes) : Bytes :=
  match (e.decodeUntilFlaw raw).2 with
  | none => []
  | some flaw => raw.drop flaw.position

theorem decodeUntilFlaw_append (e : Encoding) (raw more : Bytes) :
    ∃ n, e.decodeUntilFlaw (raw ++ more) =
      ((e.decodeUntilFlaw raw).1 ++ (e.decodeUntilFlaw (e.undecided raw ++ more)).1,
        (e.decodeUntilFlaw (e.undecided raw ++ more)).2.map fun f => f.shift n) := by
  induction raw using e.decode_induction with
  | nil => exact ⟨0, by simp [undecided, decodeUntilFlaw, decodeFrom, Flaw.shift]⟩
  | bad a raw k defect stuck =>
      refine ⟨0, ?_⟩
      simp [undecided, decodeUntilFlaw_bad stuck, Flaw.shift]
  | char a tail rest c read ih =>
      obtain ⟨n, eq⟩ := ih
      have longer : e.step a (tail ++ (rest ++ more)) = .char c (tail.length + 1) := by
        rw [← List.append_assoc]
        exact step_append read more
      have left : e.undecided (a :: (tail ++ rest)) = e.undecided rest := by
        unfold undecided
        rw [decodeUntilFlaw_cons read]
        cases (e.decodeUntilFlaw rest).2 with
        | none => rfl
        | some flaw => exact drop_shift a tail rest flaw
      refine ⟨n + (tail.length + 1), ?_⟩
      rw [List.cons_append, List.append_assoc, decodeUntilFlaw_cons longer, eq, left,
        decodeUntilFlaw_cons read]
      simp [Flaw.shift, Function.comp_def, Nat.add_assoc]

theorem waits_of_decoded {raw : Bytes} {s : Text} {flaw : Flaw}
    (flawed : e.decodeUntilFlaw raw = (s, some flaw))
    (sound : (e.decodeUntilFlaw (e.undecided raw ++ more)).2 = none) (left : Bytes) :
    flaw.waits left = true := by
  have start := decodeUntilFlaw_drop flawed
  have same : e.undecided raw = raw.drop flaw.position := by
    rw [undecided, flawed]
  rw [same] at sound
  cases there : raw.drop flaw.position with
  | nil =>
      rw [there] at start
      cases start
  | cons a rest =>
      rw [there] at start sound
      rcases e.step_cases a (rest ++ more) with ⟨k, defect, bad⟩ | ⟨tail, others, c, split, read⟩
      · rw [List.cons_append, decodeUntilFlaw_bad bad] at sound
        cases sound
      · rw [← split] at read
        rcases step_of_append read with ⟨-, char⟩ | ⟨k, cut⟩
        · rw [decodeUntilFlaw, decodeFrom, char] at start
          cases start
        · rw [decodeUntilFlaw_bad cut] at start
          obtain ⟨-, eq⟩ := Prod.mk.inj start
          have defect := congrArg (Option.map Flaw.defect) eq
          unfold Flaw.waits
          rw [← Option.some.inj defect]

theorem decodeChunks_join {pieces : List Bytes} {left : Bytes} {t s : Text} {n : Nat}
    (same : ∀ {u}, e.decodeChunks left pieces = (u, none) ↔
      e.decodeUntilFlaw (left ++ pieces.flatten) = (u, none)) :
    (t ++ (e.decodeChunks left pieces).1, (e.decodeChunks left pieces).2) = (s, none) ↔
      (t ++ (e.decodeUntilFlaw (left ++ pieces.flatten)).1,
        (e.decodeUntilFlaw (left ++ pieces.flatten)).2.map fun f => f.shift n) = (s, none) := by
  simp only [Prod.mk.injEq, Option.map_eq_none_iff]
  constructor
  · rintro ⟨rfl, sound⟩
    have whole := same.1 (Prod.ext rfl sound)
    rw [whole]
    exact ⟨rfl, rfl⟩
  · rintro ⟨rfl, sound⟩
    have whole := same.2 (Prod.ext rfl sound)
    rw [whole]
    exact ⟨rfl, rfl⟩

/-- Decoding in chunks succeeds just where decoding at once does, and gives the same text. -/
theorem decodeChunks_eq_decoded_iff (pieces : List Bytes) {pending : Bytes} {s : Text} :
    e.decodeChunks pending pieces = (s, none) ↔
      e.decodeUntilFlaw (pending ++ pieces.flatten) = (s, none) := by
  induction pieces generalizing pending s with
  | nil => simp [decodeChunks]
  | cons chunk rest ih =>
      obtain ⟨n, eq⟩ := e.decodeUntilFlaw_append (pending ++ chunk) rest.flatten
      rw [List.flatten_cons, ← List.append_assoc, eq, decodeChunks]
      rcases first : e.decodeUntilFlaw (pending ++ chunk) with ⟨t, _ | flaw⟩
      · have left : e.undecided (pending ++ chunk) = [] := by rw [undecided, first]
        rw [left]
        exact decodeChunks_join ih
      · have left : e.undecided (pending ++ chunk) = (pending ++ chunk).drop flaw.position := by
          rw [undecided, first]
        by_cases waits : flaw.waits ((pending ++ chunk).drop flaw.position) = true
        · rw [left]
          simp only [waits, if_true]
          exact decodeChunks_join ih
        · simp only [waits, Bool.false_eq_true, if_false, Prod.mk.injEq, reduceCtorEq, and_false,
            false_iff, not_and, Option.map_eq_none_iff]
          exact fun _ sound => waits (waits_of_decoded first sound _)

theorem fileItems_of_decode {content : Bytes} {s : Text} (text : e.decode content = .ok s) :
    e.fileItems content = (Text.fileLines s).map .text := by
  have whole : e.decodeUntilFlaw ([] ++ (chunks content).flatten) = (s, none) := by
    rw [flatten_chunks, List.nil_append]
    unfold decode at text
    split at text
    · rename_i decoded
      obtain rfl := Except.ok.inj text
      exact decoded
    · cases text
  rw [fileItems, (decodeChunks_eq_decoded_iff _).2 whole]

end Rover.Encoding
