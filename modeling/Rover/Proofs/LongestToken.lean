import Rover.Proofs.GreedyPatterns
import Rover.Proofs.Recognition

namespace Rover

structure Text.IsLongest (language : Text → Prop) (s token : Text) : Prop where
  start : token <+: s
  belongs : language token
  longest : ∀ t, t <+: s → language t → t.length ≤ token.length

namespace Text

variable {language : Text → Prop} {s t token : Text}

theorem IsLongest.unique (one : IsLongest language s t) (other : IsLongest language s token) :
    t = token := by
  have le := other.longest t one.start one.belongs
  have ge := one.longest token other.start other.belongs
  have start := List.prefix_of_prefix_length_le one.start other.start le
  exact start.eq_of_length (Nat.le_antisymm le ge)

theorem exists_isLongest {t : Text} (start : t <+: s) (belongs : language t) :
    ∃ token, IsLongest language s token := by
  by_cases longest : ∀ u, u <+: s → language u → u.length ≤ t.length
  · exact ⟨t, start, belongs, longest⟩
  · simp only [not_forall, Nat.not_le] at longest
    obtain ⟨u, further, member, longer⟩ := longest
    exact exists_isLongest further member
termination_by s.length - t.length
decreasing_by
  have := further.length_le
  omega

end Text

namespace Recognizer

variable {language : Text → Prop} {r : Recognizer} {s token : Text}

/-- At every position the token is the longest that the language has there, and a text is taken
whole just when the language has it. -/
structure TakesLongest (r : Recognizer) (language : Text → Prop) : Prop where
  found : ∀ (s : Text) (i : Nat) (token : Text),
    r.tokenAt? s i = some token ↔ Text.IsLongest language (s.drop i) token
  missed : ∀ (s : Text) (i : Nat), r.tokenAt? s i = none ↔ ∀ t, t <+: s.drop i → ¬ language t
  whole : ∀ s token : Text, r.matchAll? s = some token ↔ language s ∧ token = s
  refused : ∀ s : Text, r.matchAll? s = none ↔ ¬ language s

theorem matchAll?_iff_of_found
    (found : ∀ s token : Text, r.tokenAt? s 0 = some token ↔ Text.IsLongest language s token) :
    r.matchAll? s = some token ↔ language s ∧ token = s := by
  simp only [matchAll?, Option.filter_eq_some_iff, decide_eq_true_eq, found]
  constructor
  · rintro ⟨longest, whole⟩
    obtain rfl := longest.start.eq_of_length whole
    exact ⟨longest.belongs, rfl⟩
  · -- the token is no shorter than the text itself only because it is the longest
    rintro ⟨belongs, rfl⟩
    exact ⟨⟨List.prefix_rfl, belongs, fun t start _ => start.length_le⟩, rfl⟩

theorem takesLongest_of_found (found : ∀ (s : Text) (i : Nat) (token : Text),
    r.tokenAt? s i = some token ↔ Text.IsLongest language (s.drop i) token) :
    r.TakesLongest language := by
  have whole : ∀ s token : Text, r.matchAll? s = some token ↔ language s ∧ token = s :=
    fun s token => matchAll?_iff_of_found fun s token => by simpa using found s 0 token
  refine ⟨found, fun s i => ?_, whole, fun s => ?_⟩
  · rw [Option.eq_none_iff_forall_ne_some]
    constructor
    · intro missed t start belongs
      obtain ⟨token, longest⟩ := Text.exists_isLongest start belongs
      exact missed token ((found s i token).2 longest)
    · intro missed token taken
      have longest := (found s i token).1 taken
      exact missed token longest.start longest.belongs
  · rw [Option.eq_none_iff_forall_ne_some]
    constructor
    · exact fun refused belongs => refused s ((whole s s).2 ⟨belongs, rfl⟩)
    · exact fun foreign token taken => foreign ((whole s token).1 taken).1

theorem takesLongest_of_prefixToken
    (notWord : ∀ spelling ignoreCase, r ≠ .word spelling ignoreCase) (nonempty : ¬ language [])
    (start : ∀ s, r.prefixToken s <+: s)
    (belongs : ∀ s, r.prefixToken s ≠ [] → language (r.prefixToken s))
    (covers : ∀ s t, t <+: s → language t → t.length ≤ (r.prefixToken s).length) :
    r.TakesLongest language := by
  refine takesLongest_of_found fun s i token => ?_
  rw [tokenAt?_of_ne_word notWord, Int.toNat_natCast]
  split
  · rename_i none
    refine iff_of_false nofun fun longest => nonempty ?_
    have short := covers _ _ longest.start longest.belongs
    rw [none] at short
    rw [← List.eq_nil_of_length_eq_zero (Nat.le_zero.1 short)]
    exact longest.belongs
  · rename_i some
    have longest : Text.IsLongest language (s.drop i) (r.prefixToken (s.drop i)) :=
      ⟨start _, belongs _ some, covers _⟩
    rw [Option.some.injEq]
    constructor
    · rintro rfl
      exact longest
    · exact longest.unique

/-- The search for a greedy pattern takes the longest text of its language that is not empty. -/
theorem pattern_takesLongest {p : Pattern} {ignoreCase : Bool} (greedy : p.IsGreedy ignoreCase) :
    (pattern p ignoreCase).TakesLongest fun t => t ≠ [] ∧ p.Matches ignoreCase t := by
  have token (s : Text) : (pattern p ignoreCase).prefixToken s =
      s.take ((p.lengths ignoreCase s).head?.getD 0) := by
    simp only [prefixToken, Pattern.scan?]
    cases (p.lengths ignoreCase s).head? <;> simp
  refine takesLongest_of_prefixToken (by simp) (by simp) ?_ ?_ ?_
  · intro s
    rw [token]
    exact List.take_prefix _ s
  · intro s some
    refine ⟨some, ?_⟩
    rw [token] at some ⊢
    cases first : (p.lengths ignoreCase s).head? with
    | none => simp [first] at some
    | some n =>
        obtain ⟨t, start, rfl, found⟩ :=
          Pattern.mem_lengths_iff.1 (List.mem_of_head? first)
        rwa [Option.getD_some, ← List.prefix_iff_eq_take.1 start]
  · rintro s t start ⟨-, found⟩
    have member := Pattern.length_mem_lengths start found
    rw [token, List.length_take]
    refine Nat.le_min.2 ⟨?_, start.length_le⟩
    cases first : (p.lengths ignoreCase s).head? with
    | none =>
        rw [List.head?_eq_none_iff.1 first] at member
        cases member
    | some n => exact greedy.le_of_head? first member

-- the search for `a|ab` prefers the shorter text, so it is not greedy and refuses the longer one
example :
    let p := Pattern.choice (.literal "a".toList) (.literal "ab".toList)
    p.Matches false "ab".toList ∧ (pattern p false).matchAll? "ab".toList = none := by
  decide

theorem TakesLongest.tokenAt?_eq {r other : Recognizer} (one : r.TakesLongest language)
    (two : other.TakesLongest language) (s : Text) (i : Nat) :
    r.tokenAt? s i = other.tokenAt? s i :=
  Option.ext fun token => by rw [one.found, two.found]

structure SearchesFor (r : Recognizer) (p : Pattern) (language : Text → Prop) : Prop where
  means : ∀ t, p.Matches false t ↔ language t
  longest : r.TakesLongest language
  sameToken : ∀ (s : Text) (i : Int), r.tokenAt? s i = (pattern p false).tokenAt? s i

theorem searchesFor_of_isGreedy {p : Pattern} (greedy : p.IsGreedy false)
    (means : ∀ t, p.Matches false t ↔ language t) (longest : r.TakesLongest language)
    (notWord : ∀ spelling ignoreCase, r ≠ .word spelling ignoreCase) (nonempty : ¬ language []) :
    r.SearchesFor p language := by
  have search : (pattern p false).TakesLongest language := by
    have same : (fun t => t ≠ [] ∧ p.Matches false t) = language := by
      funext t
      rw [means, eq_iff_iff, and_iff_right_iff_imp]
      rintro belongs rfl
      exact nonempty belongs
    exact same ▸ pattern_takesLongest greedy
  refine ⟨means, longest, fun s i => ?_⟩
  have same := longest.tokenAt?_eq search s i.toNat
  rw [tokenAt?_of_ne_word notWord, tokenAt?_of_ne_word (by simp), Int.toNat_natCast] at same
  rw [tokenAt?_of_ne_word notWord, same, tokenAt?_of_ne_word (by simp)]

end Recognizer

end Rover
