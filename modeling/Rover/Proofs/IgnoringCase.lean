import Mathlib.Data.List.Find
import Mathlib.Data.List.Nodup
import Rover.Proofs.Grammar
import Rover.Proofs.Judging
import Rover.Proofs.Splitting

namespace Rover

namespace Text

variable {c d e : Char}

theorem ascii_of_isUpper (capital : c.isUpper = true) : c.toNat < 128 := by
  obtain ⟨-, top⟩ : 'A'.val ≤ c.val ∧ c.val ≤ 'Z'.val := of_decide_eq_true capital
  have bound : c.toNat ≤ 90 := UInt32.le_iff_toNat_le.1 top
  omega

theorem toUpper_of_not_ascii (far : ¬ c.toNat < 128) : c.toUpper = c := by
  have notSmall : ¬ (c.val ≥ 'a'.val ∧ c.val ≤ 'z'.val) := by
    rintro ⟨-, top⟩
    have bound : c.toNat ≤ 122 := UInt32.le_iff_toNat_le.1 top
    omega
  exact dif_neg notSmall

theorem forall_ascii {P : Char → Prop} (each : ∀ n < 128, P (Char.ofNat n))
    (ascii : c.toNat < 128) : P c := by
  simpa using each c.toNat ascii

theorem toUpper_of_isUpper (capital : c.isUpper = true) : c.toUpper = c :=
  forall_ascii (P := fun c => c.isUpper = true → c.toUpper = c) (by decide +kernel)
    (ascii_of_isUpper capital) capital

theorem toUpper_toLower_of_ascii (ascii : c.toNat < 128) : c.toLower.toUpper = c.toUpper :=
  forall_ascii (P := fun c => c.toLower.toUpper = c.toUpper) (by decide +kernel) ascii

theorem toLower_toUpper_of_ascii (ascii : c.toNat < 128) : c.toUpper.toLower = c.toLower :=
  forall_ascii (P := fun c => c.toUpper.toLower = c.toLower) (by decide +kernel) ascii

theorem toNat_toLower_of_isUpper (capital : c.isUpper = true) :
    0 < c.toLower.toNat ∧ c.toLower.toNat < 128 :=
  forall_ascii
    (P := fun c => c.isUpper = true → 0 < c.toLower.toNat ∧ c.toLower.toNat < 128)
    (by decide +kernel) (ascii_of_isUpper capital) capital

theorem ascii_of_isUpper_toUpper (capital : c.toUpper.isUpper = true) : c.toNat < 128 := by
  by_contra far
  rw [toUpper_of_not_ascii far] at capital
  exact far (ascii_of_isUpper capital)

theorem isBlank_toUpper (solid : isBlank c = false) : isBlank c.toUpper = false := by
  by_cases ascii : c.toNat < 128
  · exact forall_ascii (P := fun c => isBlank c = false → isBlank c.toUpper = false)
      (by decide +kernel) ascii solid
  · rwa [toUpper_of_not_ascii ascii]

theorem capitalRuns_latin : ∀ run ∈ capitalRuns,
    run.last < 128 ∨ run.first = 8490 ∧ run.last = 8490 ∧ run.shift = -8383 ∨
      128 ≤ run.first + run.shift := by
  decide +kernel

theorem smallForm_of_ascii (ascii : c.toNat < 128) : smallForm c = [c.toLower] :=
  forall_ascii (P := fun c => smallForm c = [c.toLower]) (by decide +kernel) ascii

theorem toNat_ofNat_of_pos {n : Nat} (pos : 0 < (Char.ofNat n).toNat) :
    (Char.ofNat n).toNat = n := by
  by_cases valid : n.isValidChar
  · have same : Char.ofNat n = Char.ofNatAux n valid := dif_pos valid
    rw [same]
    rfl
  · have zero : Char.ofNat n = '\x00' := dif_neg valid
    rw [zero] at pos
    cases pos

theorem ascii_of_smallForm (small : smallForm c = [e]) (ascii : 0 < e.toNat ∧ e.toNat < 128)
    (notK : e ≠ 'k') : c.toNat < 128 := by
  simp only [smallForm] at small
  split at small
  · have two := congrArg List.length small
    cases two
  · split at small
    · rename_i run found
      have covered := List.find?_some found
      have moved := congrArg Char.toNat (List.cons.inj small).1
      have notK : e.toNat ≠ 107 := fun same => notK (Char.toNat_inj.1 same)
      have latin := capitalRuns_latin run (List.mem_of_find?_eq_some found)
      simp only [CapitalRun.covers, Bool.and_eq_true, decide_eq_true_eq] at covered
      rw [toNat_ofNat_of_pos (by omega)] at moved
      omega
    · have same := (List.cons.inj small).1
      rw [same]
      exact ascii.2

theorem smallForm_eq_iff (capital : d.isUpper = true) (notK : d ≠ 'K') :
    smallForm c = [d.toLower] ↔ c.toUpper = d := by
  have lowered := toUpper_toLower_of_ascii (ascii_of_isUpper capital)
  rw [toUpper_of_isUpper capital] at lowered
  constructor
  · intro small
    have apart : d.toLower ≠ 'k' := by
      intro same
      rw [same] at lowered
      exact notK lowered.symm
    have ascii := ascii_of_smallForm small (toNat_toLower_of_isUpper capital) apart
    rw [smallForm_of_ascii ascii] at small
    rw [← toUpper_toLower_of_ascii ascii, (List.cons.inj small).1, lowered]
  · rintro rfl
    have ascii := ascii_of_isUpper_toUpper capital
    rw [smallForm_of_ascii ascii, toLower_toUpper_of_ascii ascii]

theorem smallForm_cases (c : Char) :
    smallForm c = ['i', '\u0307'] ∨ ∃ e, smallForm c = [e] := by
  unfold smallForm
  split
  · exact .inl rfl
  · split
    · exact .inr ⟨_, rfl⟩
    · exact .inr ⟨c, rfl⟩

/-- Latin capitals without K, which shares its small form with the sign of the kelvin. -/
def IsLatin (s : Text) : Prop := ∀ c ∈ s, c.isUpper = true ∧ c ≠ 'K'

variable {s w : Text}

theorem IsLatin.ascii_map_toLower (latin : IsLatin w) :
    ∀ e ∈ w.map Char.toLower, e.toNat < 128 := by
  intro e member
  obtain ⟨d, listed, rfl⟩ := List.mem_map.1 member
  exact (toNat_toLower_of_isUpper (latin d listed).1).2

theorem lowercaseAfter_of_latin (before : Text) (latin : IsLatin w) :
    lowercaseAfter before w = w.map Char.toLower := by
  induction w generalizing before with
  | nil => rfl
  | cons d w ih =>
      obtain ⟨⟨capital, -⟩, later⟩ := List.forall_mem_cons.1 latin
      have notSigma : d ≠ 'Σ' := by
        rintro rfl
        exact absurd capital (by decide)
      rw [lowercaseAfter, if_neg notSigma, smallForm_of_ascii (ascii_of_isUpper capital),
        ih _ later]
      rfl

theorem lowercaseAfter_eq_iff (before : Text) (latin : IsLatin w) :
    lowercaseAfter before s = w.map Char.toLower ↔ s.map Char.toUpper = w := by
  induction s generalizing before w with
  | nil => simp [lowercaseAfter, eq_comm]
  | cons c s ih =>
      cases w with
      | nil =>
          have some : smallForm c ≠ [] := by
            obtain two | ⟨e, one⟩ := smallForm_cases c
            · simp [two]
            · simp [one]
          simp only [lowercaseAfter]
          split_ifs <;> simp [some]
      | cons d w =>
          have ascii := latin.ascii_map_toLower
          obtain ⟨⟨capital, notK⟩, later⟩ := List.forall_mem_cons.1 latin
          rw [List.map_cons, List.map_cons, List.cons.injEq, ← smallForm_eq_iff capital notK,
            ← ih (c :: before) later, lowercaseAfter]
          rw [List.map_cons] at ascii
          by_cases sigma : c = 'Σ'
          · subst sigma
            have notFinal : d.toLower ≠ 'ς' := by
              rintro same
              exact absurd (ascii _ List.mem_cons_self) (by rw [same]; decide)
            have notInner : d.toLower ≠ 'σ' := by
              rintro same
              exact absurd (ascii _ List.mem_cons_self) (by rw [same]; decide)
            have small : smallForm 'Σ' = ['σ'] := by decide
            rw [if_pos rfl, small]
            split_ifs <;> simp [notFinal.symm, notInner.symm]
          · rw [if_neg sigma]
            obtain two | ⟨e, one⟩ := smallForm_cases c
            · -- the dot above the small i is no ASCII character
              rw [two]
              refine ⟨fun same => ?_, fun both => ?_⟩
              · rw [← same] at ascii
                exact absurd (ascii '\u0307' (by simp)) (by decide)
              · simp at both
            · simp [one]

theorem lowercase_eq_iff (latin : IsLatin w) :
    s.lowercase = w.lowercase ↔ s.map Char.toUpper = w := by
  rw [lowercase, lowercase, lowercaseAfter_of_latin [] latin, lowercaseAfter_eq_iff [] latin]

end Text

namespace Phrase

open Text

/-- The line with the letters of its keyword, those of ASCII, made capitals. -/
def raised (line : Text) : Text :=
  let body := line.dropWhile isBlank
  line.takeWhile isBlank
    ++ ((body.takeWhile (!isBlank ·)).map Char.toUpper ++ body.dropWhile (!isBlank ·))

theorem exists_arguments {tail : Text} (apart : ∀ c ∈ tail.head?, isBlank c = true) :
    ∃ arguments, ∀ u keyword : Text, (∀ c ∈ u, isBlank c = true) →
      (∀ c ∈ keyword, isBlank c = false) → keyword ≠ [] →
        ofLine (u ++ (keyword ++ tail)) = ⟨keyword, arguments⟩ := by
  obtain ⟨w, v, between, behind, whole⟩ := exists_trim tail
  have trimmed := isTrimmed_trim tail
  generalize trim tail = rest at whole trimmed
  subst whole
  by_cases none : rest = []
  · subst none
    refine ⟨[], fun u keyword before solid _ => ?_⟩
    have blanks : ∀ c ∈ w ++ [] ++ v, isBlank c = true := by
      simpa [or_imp, forall_and] using ⟨between, behind⟩
    rw [← List.append_assoc]
    exact ofLine_bare before solid blanks
  · have w_ne : w ≠ [] := by
      rintro rfl
      obtain ⟨c, others, rfl⟩ := List.exists_cons_of_ne_nil none
      have blank := apart c rfl
      rw [trimmed.first c rfl] at blank
      cases blank
    refine ⟨splitAt ',' rest, fun u keyword before solid keyword_ne => ?_⟩
    have cut := ofLine_padded before solid keyword_ne between w_ne trimmed none behind
    simpa using cut

theorem ofLine_raised (line : Text) :
    ofLine (raised line) =
      ⟨(ofLine line).keyword.map Char.toUpper, (ofLine line).arguments⟩ := by
  have whole := List.takeWhile_append_dropWhile (p := isBlank) (l := line)
  have split := List.takeWhile_append_dropWhile (p := (!isBlank ·)) (l := line.dropWhile isBlank)
  have before : ∀ c ∈ line.takeWhile isBlank, isBlank c = true := fun c => List.mem_takeWhile_imp
  have solid : ∀ c ∈ (line.dropWhile isBlank).takeWhile (!isBlank ·), isBlank c = false := by
    intro c member
    simpa using List.mem_takeWhile_imp member
  have apart : ∀ c ∈ ((line.dropWhile isBlank).dropWhile (!isBlank ·)).head?, isBlank c = true := by
    intro c member
    simpa using clear_head?_dropWhile (!isBlank ·) _ c member
  have first := clear_head?_dropWhile isBlank line
  unfold raised
  dsimp only
  generalize line.takeWhile isBlank = u at *
  generalize line.dropWhile isBlank = body at *
  generalize body.takeWhile (!isBlank ·) = keyword at *
  generalize body.dropWhile (!isBlank ·) = tail at *
  subst split whole
  by_cases none : keyword = []
  · subst none
    have blank : tail = [] := by
      cases tail with
      | nil => rfl
      | cons c others =>
          have clear := first c rfl
          rw [apart c rfl] at clear
          cases clear
    subst blank
    have empty := ofLine_bare before solid (v := []) (by simp)
    simp only [List.map_nil, List.append_nil] at empty ⊢
    rw [empty]
    rfl
  · obtain ⟨arguments, cut⟩ := exists_arguments apart
    have upper : ∀ c ∈ keyword.map Char.toUpper, isBlank c = false := by
      intro c member
      obtain ⟨d, listed, rfl⟩ := List.mem_map.1 member
      exact isBlank_toUpper (solid d listed)
    rw [cut _ _ before upper (by simpa using none), cut _ _ before solid none]

end Phrase

namespace Vocabulary

instance (v : Vocabulary) (given keyword : Text) : Decidable (v.Spells given keyword) :=
  inferInstanceAs (Decidable (_ ∧ if v.ignoreCase = true then _ else _))

variable {verbs : Table Verb} {given k : Text}

theorem recognize?_ignoring_case (distinct : (verbs.keys.map Text.lowercase).Nodup)
    (found : (⟨verbs, false⟩ : Vocabulary).recognize? given = some k) :
    (⟨verbs, true⟩ : Vocabulary).recognize? given = some k := by
  obtain ⟨rfl, listed⟩ := (recognize?_eq_some_iff rfl).1 found
  cases again : (⟨verbs, true⟩ : Vocabulary).recognize? k with
  | none => exact absurd ⟨rfl, rfl⟩ (recognize?_eq_none_iff.1 again k listed)
  | some j =>
      obtain ⟨before, after, keys, ⟨-, same⟩, -⟩ := recognize?_eq_some_iff_names.1 again
      have member : j ∈ verbs.keys := by
        rw [show verbs.keys = before ++ j :: after from keys]
        simp
      rw [List.inj_on_of_nodup_map distinct member listed same.symm]

theorem isLatin_of_mem_keys (listed : k ∈ standard.verbs.keys) : Text.IsLatin k := by
  have keys : standard.verbs.keys = Verb.standard.map Verb.keyword := by decide
  have each : ∀ verb ∈ Verb.standard,
      verb.keyword.all (fun c => c.isUpper && c != 'K') = true := by
    decide
  rw [keys] at listed
  obtain ⟨verb, standing, rfl⟩ := List.mem_map.1 listed
  simpa [Text.IsLatin] using each verb standing

theorem spells_ignoring_case_iff (latin : Text.IsLatin k) :
    (⟨verbs, true⟩ : Vocabulary).Spells given k ↔
      (⟨verbs, false⟩ : Vocabulary).Spells (given.map Char.toUpper) k := by
  constructor
  · rintro ⟨length, same⟩
    exact ⟨by rwa [List.length_map], (Text.lowercase_eq_iff latin).1 same⟩
  · rintro ⟨length, rfl⟩
    exact ⟨(List.length_map _).symm, (Text.lowercase_eq_iff latin).2 rfl⟩

theorem recognize?_standard_ignoring_case (given : Text) :
    (ofVerbs Verb.standard true).recognize? given =
      standard.recognize? (given.map Char.toUpper) := by
  apply List.find?_congr
  intro k listed
  rw [Bool.eq_iff_iff]
  have spelled : (⟨standard.verbs, true⟩ : Vocabulary).Spells given k ↔
      (⟨standard.verbs, false⟩ : Vocabulary).Spells (given.map Char.toUpper) k :=
    spells_ignoring_case_iff (isLatin_of_mem_keys listed)
  exact spells_iff.symm.trans (spelled.trans spells_iff)

theorem read_standard_ignoring_case (line : Text) (c : Command) :
    (ofVerbs Verb.standard true).read line = .ok c ↔
      standard.read (Phrase.raised line) = .ok c := by
  rw [read_eq_ok_iff, read_eq_ok_iff, Phrase.ofLine_raised, recognize?_standard_ignoring_case]
  rfl

theorem ascii_of_recognize?_standard
    (found : (ofVerbs Verb.standard true).recognize? given = some k) :
    ∀ c ∈ given, c.toNat < 128 := by
  rw [recognize?_standard_ignoring_case] at found
  obtain ⟨rfl, listed⟩ := (recognize?_eq_some_iff rfl).1 found
  intro c member
  obtain ⟨capital, -⟩ := isLatin_of_mem_keys listed _ (List.mem_map_of_mem member)
  exact Text.ascii_of_isUpper_toUpper capital

theorem heading_of_read_deploy {line : Text} {cell : Cell} {heading : Heading}
    (ok : (ofVerbs Verb.standard true).read line = .ok (.deploy cell heading)) :
    (Phrase.ofLine line).arguments[2]? = some heading.label := by
  obtain ⟨verb, standing, arguments, -, spelled, eq⟩ :=
    read_standard_ok_iff.1 ((read_standard_ignoring_case line _).1 ok)
  rw [Phrase.ofLine_raised] at spelled
  have keyword := congrArg Command.keyword eq
  rw [verb.keyword_command] at keyword
  have only : ∀ verb ∈ Verb.standard, verb.keyword = "DEPLOY".toList → verb = .deploy := by decide
  obtain rfl := only verb standing keyword.symm
  generalize (Phrase.ofLine line).arguments = given at spelled ⊢
  obtain _ | ⟨⟨-⟩, _ | ⟨⟨-⟩, _ | ⟨⟨h⟩, _ | _⟩⟩⟩ := spelled
  obtain ⟨-, rfl⟩ := Command.deploy.inj eq
  rfl

/-- Where no two keywords have the same small letters, what is read with regard to case is read the
same without. The first keyword counts that the given text is a spelling of. Of the standard
commands the ASCII letters of the keyword may be small or capital, those of the heading may not, and
no other letter is taken for one of them. -/
theorem read_ignoring_case :
    (∀ verbs : Table Verb, (verbs.keys.map Text.lowercase).Nodup → ∀ line c,
      (⟨verbs, false⟩ : Vocabulary).read line = .ok c →
        (⟨verbs, true⟩ : Vocabulary).read line = .ok c) ∧
    (∀ (v : Vocabulary) (given : Text),
      (∀ k, v.recognize? given = some k ↔ ∃ before after, v.verbs.keys = before ++ k :: after ∧
        v.Spells given k ∧ ∀ j ∈ before, ¬ v.Spells given j) ∧
      (v.recognize? given = none ↔ ∀ k ∈ v.verbs.keys, ¬ v.Spells given k)) ∧
    (∀ line c, (ofVerbs Verb.standard true).read line = .ok c ↔
      standard.read (Phrase.raised line) = .ok c) ∧
    (∀ given : Text, (∃ c ∈ given, 128 ≤ c.toNat) →
      (ofVerbs Verb.standard true).recognize? given = none) ∧
    ∀ line cell heading,
      (ofVerbs Verb.standard true).read line = .ok (.deploy cell heading) →
        (Phrase.ofLine line).arguments[2]? = some heading.label := by
  refine ⟨fun verbs distinct line c ok => ?_, fun v given => ⟨fun k => ?_, ?_⟩,
    read_standard_ignoring_case, fun given => ?_, fun line cell heading => heading_of_read_deploy⟩
  · obtain ⟨k, verb, arguments, found, rest⟩ := read_eq_ok_iff.1 ok
    exact read_eq_ok_iff.2 ⟨k, verb, arguments, recognize?_ignoring_case distinct found, rest⟩
  · exact recognize?_eq_some_iff_names
  · exact recognize?_eq_none_iff
  · rintro ⟨c, member, foreign⟩
    cases found : (ofVerbs Verb.standard true).recognize? given with
    | none => rfl
    | some k => exact absurd (ascii_of_recognize?_standard found c member) (by omega)

theorem read_ignoring_case_sharp_s :
    ∃ verbs : Table Verb,
      verbs = (ofVerbs [.deploy, .custom "STRAẞE".toList [.number]] true).verbs ∧
      (verbs.keys.map Text.lowercase).Nodup ∧
      (⟨verbs, false⟩ : Vocabulary).read " STRAẞE  -7".toList =
        .ok (.custom "STRAẞE".toList [.number (-7)]) ∧
      (⟨verbs, true⟩ : Vocabulary).read " STRAẞE  -7".toList =
        .ok (.custom "STRAẞE".toList [.number (-7)]) ∧
      (⟨verbs, true⟩ : Vocabulary).recognize? "straße".toList = some "STRAẞE".toList ∧
      Phrase.raised " dePloy 1,2,EAST".toList = " DEPLOY 1,2,EAST".toList ∧
      (ofVerbs Verb.standard true).read " dePloy 1,2,EAST".toList = .ok (.deploy ⟨1, 2⟩ .east) ∧
      (Phrase.ofLine " dePloy 1,2,EAST".toList).arguments[2]? = some "EAST".toList ∧
      (ofVerbs Verb.standard true).recognize? "R\u0130GHT".toList = none := by
  let verbs : Table Verb := (ofVerbs [.deploy, .custom "STRAẞE".toList [.number]] true).verbs
  have distinct : (verbs.keys.map Text.lowercase).Nodup := by decide +kernel
  have strict : (⟨verbs, false⟩ : Vocabulary).read " STRAẞE  -7".toList =
      .ok (.custom "STRAẞE".toList [.number (-7)]) := by decide +kernel
  have standing : standard.read " DEPLOY 1,2,EAST".toList = .ok (.deploy ⟨1, 2⟩ .east) := by
    decide +kernel
  obtain ⟨wider, first, raised, foreign, headings⟩ := read_ignoring_case
  have small := ((first ⟨verbs, true⟩ "straße".toList).1 "STRAẞE".toList).2
    ⟨["DEPLOY".toList], [], by decide, by decide +kernel, by decide +kernel⟩
  have loose := (raised " dePloy 1,2,EAST".toList _).2 standing
  exact ⟨verbs, rfl, distinct, strict, wider verbs distinct _ _ strict, small, by decide +kernel,
    loose, headings _ _ _ loose, foreign _ ⟨'\u0130', by simp, by decide⟩⟩

end Vocabulary

end Rover
