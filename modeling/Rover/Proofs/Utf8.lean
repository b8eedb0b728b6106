import Rover.Proofs.Chunks

namespace Rover

def Text.utf8 (s : Text) : Bytes := s.flatMap String.utf8EncodeChar

theorem toNat_byte {n : Nat} (small : n < 256) : (UInt8.ofNat n).toNat = n := by
  rw [UInt8.toNat_ofNat', Nat.mod_eq_of_lt (by simpa using small)]

namespace Encoding

theorem isContinuation_byte {n : Nat} (small : n < 0x40) :
    isContinuation (UInt8.ofNat (n + 0x80)) = true ∧ low (UInt8.ofNat (n + 0x80)) = n := by
  have byte : (UInt8.ofNat (n + 0x80)).toNat = n + 0x80 := toNat_byte (by omega)
  simp only [isContinuation, low, byte, Bool.and_eq_true, decide_eq_true_eq,
    UInt8.le_iff_toNat_le, UInt8.reduceToNat]
  omega

theorem char_toNat_cases (c : Char) : c.toNat < 0xD800 ∨ 0xDFFF < c.toNat ∧ c.toNat < 0x110000 :=
  c.valid

section

variable {c : Char} (rest : Bytes)

theorem stepUtf8_one (small : c.toNat ≤ 0x7F) :
    stepUtf8 (UInt8.ofNat c.toNat) rest = .char c 1 := by
  have byte : (UInt8.ofNat c.toNat).toNat = c.toNat := toNat_byte (by omega)
  simp only [stepUtf8, UInt8.lt_iff_toNat_lt, byte, UInt8.reduceToNat]
  rw [if_pos (by omega), Char.ofNat_toNat]

theorem stepUtf8_two (above : 0x7F < c.toNat) (below : c.toNat ≤ 0x7FF) :
    stepUtf8 (UInt8.ofNat (c.toNat / 64 % 0x20 + 0xC0))
      (UInt8.ofNat (c.toNat % 0x40 + 0x80) :: rest) = .char c 2 := by
  have byte : (UInt8.ofNat (c.toNat / 64 % 0x20 + 0xC0)).toNat = c.toNat / 64 % 0x20 + 0xC0 :=
    toNat_byte (by omega)
  obtain ⟨second, second_low⟩ := isContinuation_byte (n := c.toNat % 0x40) (by omega)
  simp only [stepUtf8, UInt8.lt_iff_toNat_lt, byte, UInt8.reduceToNat, second, second_low, if_true]
  rw [if_neg (by omega), if_neg (by omega), if_pos (by omega)]
  have value : (c.toNat / 64 % 0x20 + 0xC0) % 0x20 * 0x40 + c.toNat % 0x40 = c.toNat := by omega
  rw [value, Char.ofNat_toNat]

theorem stepUtf8_three (above : 0x7FF < c.toNat) (below : c.toNat ≤ 0xFFFF) :
    stepUtf8 (UInt8.ofNat (c.toNat / 4096 % 0x10 + 0xE0))
      (UInt8.ofNat (c.toNat / 64 % 0x40 + 0x80) :: UInt8.ofNat (c.toNat % 0x40 + 0x80) :: rest) =
        .char c 3 := by
  have valid := char_toNat_cases c
  have byte : (UInt8.ofNat (c.toNat / 4096 % 0x10 + 0xE0)).toNat = c.toNat / 4096 % 0x10 + 0xE0 :=
    toNat_byte (by omega)
  have byte' : (UInt8.ofNat (c.toNat / 64 % 0x40 + 0x80)).toNat = c.toNat / 64 % 0x40 + 0x80 :=
    toNat_byte (by omega)
  obtain ⟨second, second_low⟩ := isContinuation_byte (n := c.toNat / 64 % 0x40) (by omega)
  obtain ⟨third, third_low⟩ := isContinuation_byte (n := c.toNat % 0x40) (by omega)
  have fits : isSecondOfThree (UInt8.ofNat (c.toNat / 4096 % 0x10 + 0xE0))
      (UInt8.ofNat (c.toNat / 64 % 0x40 + 0x80)) = true := by
    simp only [isSecondOfThree, second, Bool.true_and, Bool.and_eq_true, Bool.or_eq_true,
      bne_iff_ne, decide_eq_true_eq, ne_eq, ← UInt8.toNat_inj, UInt8.le_iff_toNat_le, byte, byte',
      UInt8.reduceToNat]
    omega
  simp only [stepUtf8, UInt8.lt_iff_toNat_lt, byte, UInt8.reduceToNat, fits, second_low, third,
    third_low, if_true]
  rw [if_neg (by omega), if_neg (by omega), if_neg (by omega), if_pos (by omega)]
  have value : (c.toNat / 4096 % 0x10 + 0xE0) % 0x10 * 0x1000 + c.toNat / 64 % 0x40 * 0x40 +
      c.toNat % 0x40 = c.toNat := by omega
  rw [value, Char.ofNat_toNat]

theorem stepUtf8_four (above : 0xFFFF < c.toNat) :
    stepUtf8 (UInt8.ofNat (c.toNat / 262144 % 0x08 + 0xF0))
      (UInt8.ofNat (c.toNat / 4096 % 0x40 + 0x80) :: UInt8.ofNat (c.toNat / 64 % 0x40 + 0x80) ::
        UInt8.ofNat (c.toNat % 0x40 + 0x80) :: rest) = .char c 4 := by
  have valid := char_toNat_cases c
  have byte : (UInt8.ofNat (c.toNat / 262144 % 0x08 + 0xF0)).toNat =
      c.toNat / 262144 % 0x08 + 0xF0 := toNat_byte (by omega)
  have byte' : (UInt8.ofNat (c.toNat / 4096 % 0x40 + 0x80)).toNat = c.toNat / 4096 % 0x40 + 0x80 :=
    toNat_byte (by omega)
  obtain ⟨second, second_low⟩ := isContinuation_byte (n := c.toNat / 4096 % 0x40) (by omega)
  obtain ⟨third, third_low⟩ := isContinuation_byte (n := c.toNat / 64 % 0x40) (by omega)
  obtain ⟨fourth, fourth_low⟩ := isContinuation_byte (n := c.toNat % 0x40) (by omega)
  have fits : isSecondOfFour (UInt8.ofNat (c.toNat / 262144 % 0x08 + 0xF0))
      (UInt8.ofNat (c.toNat / 4096 % 0x40 + 0x80)) = true := by
    simp only [isSecondOfFour, second, Bool.true_and, Bool.and_eq_true, Bool.or_eq_true,
      bne_iff_ne, decide_eq_true_eq, ne_eq, ← UInt8.toNat_inj, UInt8.le_iff_toNat_le, byte, byte',
      UInt8.reduceToNat]
    omega
  simp only [stepUtf8, UInt8.lt_iff_toNat_lt, byte, UInt8.reduceToNat, fits, second_low, third,
    third_low, fourth, fourth_low, if_true]
  rw [if_neg (by omega), if_neg (by omega), if_neg (by omega), if_neg (by omega),
    if_pos (by omega)]
  have value : (c.toNat / 262144 % 0x08 + 0xF0) % 0x08 * 0x40000 +
      c.toNat / 4096 % 0x40 * 0x1000 + c.toNat / 64 % 0x40 * 0x40 + c.toNat % 0x40 = c.toNat := by
    omega
  rw [value, Char.ofNat_toNat]

end

theorem stepUtf8_utf8EncodeChar (c : Char) :
    ∃ a tail, String.utf8EncodeChar c = a :: tail ∧
      ∀ rest, stepUtf8 a (tail ++ rest) = .char c (tail.length + 1) := by
  unfold String.utf8EncodeChar
  dsimp only
  split_ifs with one two three
  · exact ⟨_, [], rfl, fun rest => stepUtf8_one rest one⟩
  · exact ⟨_, [_], rfl, fun rest => stepUtf8_two rest (Nat.lt_of_not_le one) two⟩
  · exact ⟨_, [_, _], rfl, fun rest => stepUtf8_three rest (Nat.lt_of_not_le two) three⟩
  · exact ⟨_, [_, _, _], rfl, fun rest => stepUtf8_four rest (Nat.lt_of_not_le three)⟩

theorem utf8EncodeChar_ne_nil (c : Char) : String.utf8EncodeChar c ≠ [] := by
  obtain ⟨a, tail, bytes, -⟩ := stepUtf8_utf8EncodeChar c
  rw [bytes]
  exact List.cons_ne_nil a tail

theorem decodeFrom_utf8 (position : Nat) (s : Text) :
    utf8.decodeFrom position 0 s.utf8 = (s, none) := by
  induction s generalizing position with
  | nil => rfl
  | cons c rest ih =>
      obtain ⟨a, tail, bytes, step⟩ := stepUtf8_utf8EncodeChar c
      have front : Text.utf8 (c :: rest) = a :: (tail ++ Text.utf8 rest) := by
        rw [Text.utf8, List.flatMap_cons, bytes]
        rfl
      have read : utf8.step a (tail ++ Text.utf8 rest) = .char c (tail.length + 1) :=
        step (Text.utf8 rest)
      rw [front, decodeFrom, read]
      dsimp only
      rw [Nat.add_sub_cancel, decodeFrom_skip, ih]

theorem decode_utf8 (s : Text) : utf8.decode s.utf8 = .ok s := by
  rw [decode, decodeUntilFlaw, decodeFrom_utf8]

theorem mem_utf8EncodeChar {c : Char} {b : UInt8} (member : b ∈ String.utf8EncodeChar c)
    (small : b.toNat < 0x80) : String.utf8EncodeChar c = [b] ∧ c.toNat = b.toNat := by
  have high {n : Nat} (low : 0x80 ≤ n) (bound : n < 256) : b ≠ UInt8.ofNat n := by
    rintro rfl
    rw [toNat_byte bound] at small
    omega
  unfold String.utf8EncodeChar at member ⊢
  dsimp only at member ⊢
  split_ifs at member ⊢ with one two three
  · obtain rfl := List.mem_singleton.1 member
    exact ⟨rfl, (toNat_byte (by omega : c.val.toNat < 256)).symm⟩
  all_goals
    simp only [List.mem_cons, List.not_mem_nil, or_false] at member
    exfalso
    grind

theorem ne_of_mem_utf8EncodeChar {c d : Char} {b : UInt8} (member : b ∈ String.utf8EncodeChar c)
    (ne : c ≠ d) (small : d.toNat < 0x80) : b ≠ UInt8.ofNat d.toNat := by
  rintro rfl
  have byte : (UInt8.ofNat d.toNat).toNat = d.toNat := toNat_byte (by omega)
  have same := (mem_utf8EncodeChar member (by omega)).2
  exact ne (Char.toNat_inj.1 (same.trans byte))

end Encoding

end Rover
