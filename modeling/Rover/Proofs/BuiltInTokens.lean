import Rover.Pattern.Written
import Rover.Proofs.LongestToken

namespace Rover

namespace Numeral

def IsSigned (t : Text) : Prop :=
  ∃ mark digits : Text, t = mark ++ digits ∧ (mark = [] ∨ mark = ['+'] ∨ mark = ['-']) ∧
    digits ≠ [] ∧ ∀ c ∈ digits, '0' ≤ c ∧ c ≤ '9'

theorem not_isSigned_nil : ¬ IsSigned [] := by
  rintro ⟨mark, digits, nil, -, some, -⟩
  exact some (List.append_eq_nil_iff.1 nil.symm).2

theorem isDigit_iff {c : Char} : isDigit c = true ↔ '0' ≤ c ∧ c ≤ '9' := by
  simp [isDigit]

theorem sign_cases (s : Text) : sign s = [] ∨ sign s = ['+'] ∨ sign s = ['-'] := by
  fun_cases sign s <;> simp

theorem sign_append {mark digits : Text} (s : Text)
    (known : mark = [] ∨ mark = ['+'] ∨ mark = ['-']) (some : digits ≠ [])
    (each : ∀ c ∈ digits, isDigit c = true) : sign (mark ++ (digits ++ s)) = mark := by
  rcases known with rfl | rfl | rfl
  · obtain ⟨c, rest, rfl⟩ := List.exists_cons_of_ne_nil some
    exact sign_of_isDigit (each c List.mem_cons_self)
  · rfl
  · rfl

theorem scan_start (s : Text) : scan s <+: s := by
  simp only [scan]
  split
  · exact List.nil_prefix
  · conv_rhs => rw [← sign_append_unsigned s]
    exact (List.prefix_append_right_inj _).2 (List.takeWhile_prefix isDigit)

theorem isSigned_scan {s : Text} (some : scan s ≠ []) : IsSigned (scan s) := by
  simp only [scan] at some ⊢
  split at some
  · exact absurd rfl some
  · rename_i digits
    rw [if_neg digits]
    exact ⟨sign s, _, rfl, sign_cases s, digits, fun c member =>
      isDigit_iff.1 (List.mem_takeWhile_imp member)⟩

theorem length_le_scan {s t : Text} (start : t <+: s) (signed : IsSigned t) :
    t.length ≤ (scan s).length := by
  obtain ⟨mark, digits, rfl, known, some, each⟩ := signed
  obtain ⟨after, rfl⟩ := start
  have each : ∀ c ∈ digits, isDigit c = true := fun c member => isDigit_iff.2 (each c member)
  rw [List.append_assoc]
  have rest : unsigned (mark ++ (digits ++ after)) = digits ++ after := by
    rw [unsigned, sign_append after known some each, List.drop_left]
  have run : (digits ++ after).takeWhile isDigit = digits ++ after.takeWhile isDigit :=
    List.takeWhile_append_of_pos each
  rw [scan, rest, run, if_neg (by simp [some]), sign_append after known some each]
  simp only [List.length_append]
  omega

end Numeral

namespace Recognizer

theorem numeral_takesLongest : numeral.TakesLongest Numeral.IsSigned :=
  takesLongest_of_prefixToken (by simp) Numeral.not_isSigned_nil Numeral.scan_start
    (fun _ => Numeral.isSigned_scan) fun _ _ => Numeral.length_le_scan

theorem blanks_takesLongest :
    blanks.TakesLongest fun t => t ≠ [] ∧ ∀ c ∈ t, Text.isBlank c = true := by
  refine takesLongest_of_prefixToken (by simp) (by simp)
    (fun s => List.takeWhile_prefix Text.isBlank)
    (fun s some => ⟨some, fun c member => List.mem_takeWhile_imp member⟩) ?_
  rintro s t ⟨after, rfl⟩ ⟨-, each⟩
  change _ ≤ ((t ++ after).takeWhile Text.isBlank).length
  rw [List.takeWhile_append_of_pos each, List.length_append]
  exact Nat.le_add_right _ _

end Recognizer

theorem Heading.nil_ne_label (h : Heading) : [] ≠ h.label := by cases h <;> decide

theorem Heading.eq_of_label_start {h k : Heading} (start : h.label <+: k.label) : h = k := by
  revert start
  cases h <;> cases k <;> decide

theorem Heading.eq_of_starts {h k : Heading} {s : Text} (one : h.label <+: s)
    (other : k.label <+: s) : h = k := by
  rcases List.prefix_or_prefix_of_prefix one other with start | start
  · exact eq_of_label_start start
  · exact (eq_of_label_start start).symm

namespace Recognizer

theorem prefixToken_heading {s : Text} {h : Heading} (start : h.label <+: s) :
    heading.prefixToken s = h.label := by
  simp only [prefixToken]
  cases found : Heading.all.find? (·.label.isPrefixOf s) with
  | none =>
      have missed := List.find?_eq_none.1 found h (Heading.mem_all h)
      exact absurd (List.isPrefixOf_iff_prefix.2 start) missed
  | some k =>
      have other : k.label <+: s :=
        List.isPrefixOf_iff_prefix.1 (by simpa using List.find?_some found)
      rw [Heading.eq_of_starts start other]
      rfl

theorem heading_takesLongest : heading.TakesLongest fun t => ∃ h : Heading, t = h.label := by
  refine takesLongest_of_prefixToken (by simp) (not_exists.2 Heading.nil_ne_label) ?_ ?_ ?_
  · intro s
    by_cases some : heading.prefixToken s = []
    · rw [some]
      exact List.nil_prefix
    · obtain ⟨h, label, start⟩ := label_of_prefixToken_heading some
      rwa [label]
  · intro s some
    obtain ⟨h, label, -⟩ := label_of_prefixToken_heading some
    exact ⟨h, label⟩
  · rintro s _ start ⟨h, rfl⟩
    rw [prefixToken_heading start]

theorem heading_tokenAt?_iff {s token : Text} {i : Nat} :
    heading.tokenAt? s i = some token ↔ ∃ h : Heading, token = h.label ∧
      h.label <+: s.drop i ∧ ∀ k : Heading, k.label <+: s.drop i → k = h := by
  rw [heading_takesLongest.found]
  constructor
  · rintro ⟨start, ⟨h, rfl⟩, -⟩
    exact ⟨h, rfl, start, fun k other => Heading.eq_of_starts other start⟩
  · rintro ⟨h, rfl, start, -⟩
    refine ⟨start, ⟨h, rfl⟩, ?_⟩
    rintro _ other ⟨k, rfl⟩
    rw [Heading.eq_of_starts other start]

end Recognizer

namespace Pattern

variable {t : Text}

def mark : Pattern := .times (.oneOf [('+', '+'), ('-', '-')]) 0 (some 1)

def digits : Pattern := .row (.times (.oneOf [('0', '9')]) 1 none) .empty

theorem matches_mark_iff : Matches false mark t ↔ t = [] ∨ t = ['+'] ∨ t = ['-'] := by
  rw [mark, matches_optional_iff, matches_oneOf_iff]
  refine or_congr_right ⟨?_, ?_⟩
  · rintro ⟨c, rfl, inside⟩
    simp only [List.any_cons, List.any_nil, Bool.or_false, Bool.or_eq_true, inRange_self_iff]
      at inside
    rcases inside with rfl | rfl
    · exact .inl rfl
    · exact .inr rfl
  · rintro (rfl | rfl)
    · exact ⟨'+', rfl, by decide⟩
    · exact ⟨'-', rfl, by decide⟩

theorem matches_digits_iff : Matches false digits t ↔ t ≠ [] ∧ ∀ c ∈ t, '0' ≤ c ∧ c ≤ '9' := by
  simp only [digits, matches_row_iff, matches_empty_iff, matches_run_iff]
  constructor
  · rintro ⟨u, v, rfl, ⟨some, each⟩, rfl⟩
    rw [List.append_nil]
    refine ⟨List.ne_nil_of_length_pos some, fun c member => ?_⟩
    simpa [inRange] using each c member
  · rintro ⟨some, each⟩
    refine ⟨t, [], (List.append_nil t).symm, ⟨List.length_pos_iff.2 some, fun c member => ?_⟩, rfl⟩
    simpa [inRange] using each c member

theorem isGreedy_digits : digits.IsGreedy false := by
  refine (isGreedy_run _ _ _).row isGreedy_empty ?_
  intro s m n _ _ less j hj k hk
  obtain rfl := List.mem_singleton.1 hj
  obtain rfl := List.mem_singleton.1 hk
  exact less

theorem isGreedy_signed : (Pattern.row mark digits).IsGreedy false := by
  refine (isGreedy_run _ _ _).row isGreedy_digits ?_
  -- digits do not start with a sign, so a sign that is there is never left out
  intro s m n hm _ less j _ k hk
  obtain ⟨u, ⟨after, rfl⟩, rfl, marked⟩ := mem_lengths_iff.1 hm
  obtain ⟨v, start, rfl, found⟩ := mem_lengths_iff.1 hk
  obtain ⟨some, each⟩ := matches_digits_iff.1 found
  obtain ⟨c, rest, rfl⟩ := List.exists_cons_of_ne_nil some
  have digit := each c List.mem_cons_self
  rcases matches_mark_iff.1 marked with rfl | known
  · cases less
  · obtain ⟨m, rfl, apart⟩ : ∃ m, u = [m] ∧ ¬ ('0' ≤ m ∧ m ≤ '9') := by
      rcases known with rfl | rfl
      · exact ⟨'+', rfl, by decide⟩
      · exact ⟨'-', rfl, by decide⟩
    obtain rfl : n = 0 := by simpa using less
    obtain ⟨rfl, -⟩ := List.cons_prefix_cons.1 start
    exact absurd digit apart

theorem matches_signed_iff : Matches false (.row mark digits) t ↔ Numeral.IsSigned t := by
  simp only [matches_row_iff, matches_mark_iff, matches_digits_iff, Numeral.IsSigned]

theorem ofText_signed : ofText "[+-]?[0-9]+".toList = .ok (.row mark digits) := by
  cbv

def headings : Pattern :=
  .choice (literal Heading.north.label) (.choice (literal Heading.east.label)
    (.choice (literal Heading.south.label) (literal Heading.west.label)))

theorem ofText_headings : ofText "NORTH|EAST|SOUTH|WEST".toList = .ok headings := by
  cbv

theorem lengths_headings (s : Text) : lengths false headings s =
    (Heading.all.filter (·.label <+: s)).map (·.label.length) := by
  simp only [headings, lengths, lengths_literal, Heading.all, List.filter_cons, List.filter_nil,
    decide_eq_true_eq]
  split <;> split <;> split <;> split <;> rfl

theorem isGreedy_headings : headings.IsGreedy false := by
  intro s
  rw [lengths_headings, List.pairwise_map, List.pairwise_filter]
  refine (show Heading.all.Pairwise (· ≠ ·) by decide).imp fun {h k} apart start other => ?_
  exact absurd (Heading.eq_of_starts (of_decide_eq_true start) (of_decide_eq_true other)) apart

theorem matches_headings_iff : Matches false headings t ↔ ∃ h : Heading, t = h.label := by
  rw [matches_iff, lengths_headings]
  simp only [List.mem_map, List.mem_filter, Heading.mem_all, true_and, decide_eq_true_eq]
  refine exists_congr fun h => ⟨?_, ?_⟩
  · rintro ⟨start, length⟩
    exact (start.eq_of_length length).symm
  · rintro rfl
    exact ⟨List.prefix_rfl, rfl⟩

def blankRanges : List (Char × Char) :=
  [('\t', '\r'), ('\x1c', ' '), ('\x85', '\x85'), ('\xa0', '\xa0'), ('\u1680', '\u1680'),
    ('\u2000', '\u200a'), ('\u2028', '\u2029'), ('\u202f', '\u202f'), ('\u205f', '\u205f'),
    ('\u3000', '\u3000')]

def blankRun : Pattern := .times (.oneOf blankRanges) 1 none

theorem matches_blankRun_iff :
    Matches false blankRun t ↔ t ≠ [] ∧ ∀ c ∈ t, Text.isBlank c = true := by
  have inside (c : Char) : blankRanges.any (inRange false c) = Text.isBlank c := by
    have order (a b : Char) : a ≤ b ↔ a.toNat ≤ b.toNat := Iff.rfl
    rw [Bool.eq_iff_iff]
    simp only [blankRanges, inRange, List.any_cons, List.any_nil, Bool.false_and, Bool.or_false,
      Text.isBlank, Bool.or_eq_true, Bool.and_eq_true, decide_eq_true_eq, beq_iff_eq, order,
      Char.reduceToNat]
    omega
  rw [blankRun, matches_run_iff]
  simp only [inside, Nat.one_le_iff_ne_zero, ne_eq, List.length_eq_zero_iff]

end Pattern

namespace Recognizer

/-- The built-in recognizers find the longest token at every position, so the length of its first
token tells whether a text belongs to the language. -/
theorem builtIns_takeLongest :
    (∃ p, Pattern.ofText "[+-]?[0-9]+".toList = .ok p ∧
      numeral.SearchesFor p Numeral.IsSigned) ∧
    blanks.SearchesFor Pattern.blankRun (fun t => t ≠ [] ∧ ∀ c ∈ t, Text.isBlank c = true) ∧
    (∃ p, Pattern.ofText "NORTH|EAST|SOUTH|WEST".toList = .ok p ∧
      heading.SearchesFor p fun t => ∃ h : Heading, t = h.label) ∧
    ∀ (s : Text) (i : Nat) (token : Text),
      heading.tokenAt? s i = some token ↔ ∃ h : Heading, token = h.label ∧
        h.label <+: s.drop i ∧ ∀ k : Heading, k.label <+: s.drop i → k = h := by
  refine ⟨⟨_, Pattern.ofText_signed, ?_⟩, ?_, ⟨_, Pattern.ofText_headings, ?_⟩,
    fun s i token => heading_tokenAt?_iff⟩
  · exact searchesFor_of_isGreedy Pattern.isGreedy_signed (fun _ => Pattern.matches_signed_iff)
      numeral_takesLongest (by simp) Numeral.not_isSigned_nil
  · exact searchesFor_of_isGreedy (Pattern.isGreedy_run _ _ _)
      (fun _ => Pattern.matches_blankRun_iff) blanks_takesLongest (by simp) (by simp)
  · exact searchesFor_of_isGreedy Pattern.isGreedy_headings
      (fun _ => Pattern.matches_headings_iff) heading_takesLongest (by simp)
      (not_exists.2 Heading.nil_ne_label)

example :
    numeral.tokenAt? "x-07y".toList 1 = some "-07".toList ∧
      numeral.tokenAt? "x".toList 5 = none ∧ numeral.matchAll? "1.0".toList = none := by
  decide

end Recognizer

end Rover
