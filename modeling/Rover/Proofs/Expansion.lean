import Rover.Proofs.Styles

namespace Rover

namespace Numeral

open Text

theorem exists_of_mem_toDigits {b n : Nat} (base : 1 < b) {c : Char}
    (member : c ∈ Nat.toDigits b n) : ∃ d < b, c = Nat.digitChar d := by
  induction n using Nat.strongRecOn with
  | ind n ih =>
      rw [Nat.toDigits_eq_if base] at member
      split at member
      · rename_i small
        exact ⟨n, small, List.mem_singleton.1 member⟩
      · rename_i large
        rcases List.mem_append.1 member with member | member
        · exact ih (n / b) (Nat.div_lt_self (by omega) base) member
        · exact ⟨n % b, Nat.mod_lt n (by omega), List.mem_singleton.1 member⟩

theorem noEscape_toDigits {b : Nat} (base : 1 < b) (most : b ≤ 16) (n : Nat) :
    NoEscape (Nat.toDigits b n) := by
  have each : ∀ d < 16, Nat.digitChar d ≠ escape := by decide
  apply noEscape_of_forall
  intro c member
  obtain ⟨d, small, rfl⟩ := exists_of_mem_toDigits base member
  exact each d (by omega)

theorem noEscape_ofNat (n : Nat) : NoEscape (ofNat n) :=
  noEscape_toDigits (by decide) (by decide) n

theorem noEscape_ofInt (n : Int) : NoEscape (ofInt n) := by
  cases n with
  | ofNat n => exact noEscape_ofNat n
  | negSucc n => exact noEscape_cons.2 ⟨by decide, noEscape_ofNat (n + 1)⟩

end Numeral

theorem Heading.noEscape_label (h : Heading) : h.label.NoEscape := by cases h <;> decide

namespace Text

theorem noEscape_hex (width n : Nat) : NoEscape (hex width n) := by
  simp only [hex, noEscape_append]
  exact ⟨noEscape_replicate (by decide) _, Numeral.noEscape_toDigits (by decide) (by decide) n⟩

theorem noEscape_quoteChar {q c : Char} (ne : c ≠ escape) : NoEscape (quoteChar q c) := by
  have backslash : '\\' ≠ escape := by decide
  have hexed (width : Nat) (mark : Char) (clear : mark ≠ escape) :
      NoEscape (['\\', mark] ++ hex width c.toNat) := by
    simp [backslash, clear, noEscape_hex]
  simp only [quoteChar]
  split_ifs
  · simp [backslash, ne]
  · decide
  · decide
  · decide
  · simp [ne]
  · exact hexed 2 'x' (by decide)
  · exact hexed 4 'u' (by decide)
  · exact hexed 8 'U' (by decide)

theorem NoEscape.quoted {s : Text} (clear : NoEscape s) : NoEscape (quoted s) := by
  have quote : quoteFor s ≠ escape := by
    simp only [quoteFor]
    split_ifs <;> decide
  have body : NoEscape (s.flatMap (quoteChar (quoteFor s))) := by
    apply NoEscape.flatMap
    intro c member
    apply noEscape_quoteChar
    rintro rfl
    exact clear member
  simp only [Text.quoted, noEscape_append, noEscape_cons, noEscape_nil]
  exact ⟨⟨quote, body⟩, quote, trivial⟩

end Text

namespace Template

open Text

def Value.NoEscape : Value → Prop
  | .number _ => True
  | .text s => s.NoEscape

def Found.NoEscape : Found → Prop
  | .value v => v.NoEscape
  | .extra v _ => v.NoEscape

structure Extras.NoEscape (extras : Extras) : Prop where
  number : ∀ l n t, l.fill ≠ escape → (∀ mark ∈ l.mark, mark ≠ escape) →
    extras.number l n = .ok t → t.NoEscape
  member : ∀ v path conversion lay layout t, v.NoEscape → layout.NoEscape →
    extras.member v path conversion = .ok lay → lay layout = .ok t → t.NoEscape

theorem Extras.noEscape_none : Extras.none.NoEscape where
  number _ _ _ _ _ ok := nomatch ok
  member _ _ _ _ _ _ _ _ found := nomatch found

theorem decimal_noEscape {n : Int} {s : Text} (ok : decimal n = .ok s) : s.NoEscape := by
  simp only [decimal] at ok
  split at ok
  · obtain rfl := Except.ok.inj ok
    exact Numeral.noEscape_ofInt n
  · cases ok

theorem Value.NoEscape.plain {v : Value} (clear : v.NoEscape) {s : Text} (ok : v.plain = .ok s) :
    s.NoEscape := by
  cases v with
  | number n => exact decimal_noEscape ok
  | text t =>
      obtain rfl := Except.ok.inj ok
      exact clear

section Layout

theorem noEscape_pad {l : Layout} {opening body : Text} (fill : l.fill ≠ escape)
    (front : opening.NoEscape) (clear : body.NoEscape) : (pad l opening body).NoEscape := by
  have run (n : Nat) : NoEscape (List.replicate n l.fill) := noEscape_replicate fill n
  simp only [pad]
  cases l.align <;> simp [run, front, clear]

theorem noEscape_groupDigits {mark : Char} (ne : mark ≠ escape) (size fuel least : Nat)
    {digits : Text} (clear : digits.NoEscape) :
    (groupDigits size mark fuel least digits).NoEscape := by
  induction fuel generalizing least digits with
  | zero => exact noEscape_nil
  | succ fuel ih =>
      have zeros (n : Nat) : NoEscape (List.replicate n '0') := noEscape_replicate (by decide) n
      have first (n : Nat) : NoEscape (digits.take n) := clear.mono (List.take_subset n digits)
      have rest (n : Nat) : NoEscape (digits.drop n) := clear.mono (List.drop_subset n digits)
      simp only [groupDigits]
      split
      · simp [zeros, first]
      · simp [zeros, first, ne, ih _ (rest _)]

theorem mem_of_readAlign {s : Text} {fill : Char} (read : (readAlign s).1 = some fill) :
    fill ∈ s := by
  simp only [readAlign] at read
  split at read
  · split at read
    · obtain rfl := Option.some.inj read
      exact List.mem_cons_self
    · cases read
    · cases read
  · split at read <;> cases read
  · cases read

theorem readMark_ne_escape {s : Text} {found : Option Char × Text}
    (read : readMark s = .ok found) : ∀ mark ∈ found.1, mark ≠ escape := by
  simp only [readMark] at read
  split at read
  · split at read
    · cases read
    · cases read
      simp [escape]
  · split at read
    · split at read
      · cases read
      · cases read
        simp [escape]
    · cases read
      simp

theorem readLayout_noEscape {custom : Align} {s : Text} (clear : s.NoEscape) {l : Layout}
    (read : readLayout custom s = .ok l) :
    l.fill ≠ escape ∧ ∀ mark ∈ l.mark, mark ≠ escape := by
  have fill (zero : Bool) : (if zero then '0' else (readAlign s).1.getD ' ') ≠ escape := by
    split
    · decide
    · cases aligned : (readAlign s).1 with
      | none => decide
      | some c =>
          rintro rfl
          exact clear (mem_of_readAlign aligned)
  simp only [readLayout, bind, Except.bind, pure, Except.pure] at read
  split at read
  · cases read
  · split at read
    · cases read
    · rename_i marked
      split at read
      · cases read
      · split at read
        · obtain rfl := Except.ok.inj read
          exact ⟨fill _, readMark_ne_escape marked⟩
        · obtain rfl := Except.ok.inj read
          exact ⟨fill _, readMark_ne_escape marked⟩
        · cases read

theorem noEscape_toUpper {b : Nat} (base : 1 < b) (most : b ≤ 16) (n : Nat) :
    NoEscape ((Nat.toDigits b n).map Char.toUpper) := by
  have each : ∀ d < 16, (Nat.digitChar d).toUpper ≠ escape := by decide
  apply noEscape_of_forall
  intro c member
  obtain ⟨digit, listed, rfl⟩ := List.mem_map.1 member
  obtain ⟨d, small, rfl⟩ := Numeral.exists_of_mem_toDigits base listed
  exact each d (by omega)

theorem base?_bounds {form : Char} {base : Nat} {announced : Text}
    (found : base? form = some (base, announced)) :
    1 < base ∧ base ≤ 16 ∧ announced.NoEscape := by
  simp only [base?] at found
  split at found <;> cases found <;> decide

theorem noEscape_signText (sign : Option Sign) (negative : Bool) :
    (signText sign negative).NoEscape := by
  simp only [signText]
  split
  · decide
  · split <;> decide

variable {extras : Extras} (quiet : extras.NoEscape)

include quiet in
theorem layNumber_noEscape {l : Layout} (fill : l.fill ≠ escape)
    (mark : ∀ mark ∈ l.mark, mark ≠ escape) {n : Int} {s : Text}
    (ok : layNumber extras l n = .ok s) : s.NoEscape := by
  simp only [layNumber, bind, Except.bind, pure, Except.pure] at ok
  split at ok
  · exact quiet.number l n s fill mark ok
  · rename_i base announced found
    obtain ⟨least, most, prefixed⟩ := base?_bounds found
    have opening : NoEscape (signText l.sign (decide (n < 0)) ++
        if l.alternate then announced else []) := by
      rw [noEscape_append]
      refine ⟨noEscape_signText _ _, ?_⟩
      split
      · exact prefixed
      · exact noEscape_nil
    have digits : NoEscape (if l.form.getD 'd' = 'X'
        then (Nat.toDigits base n.natAbs).map Char.toUpper else Nat.toDigits base n.natAbs) := by
      split
      · exact noEscape_toUpper least most _
      · exact Numeral.noEscape_toDigits least most _
    generalize (if l.form.getD 'd' = 'X' then (Nat.toDigits base n.natAbs).map Char.toUpper
      else Nat.toDigits base n.natAbs) = written at digits ok
    generalize (signText l.sign (decide (n < 0)) ++ if l.alternate then announced else []) = front
      at opening ok
    cases marked : l.mark with
    | none =>
        simp only [marked] at ok
        split at ok
        · cases ok
        · split at ok
          · cases ok
          · obtain rfl := Except.ok.inj ok
            exact noEscape_pad fill opening digits
    | some m =>
        simp only [marked] at ok
        cases sized : groupSize (l.form.getD 'd') m with
        | error flaw =>
            rw [sized] at ok
            cases ok
        | ok size =>
            simp only [sized, Functor.map, Except.map] at ok
            split at ok
            · cases ok
            · split at ok
              · cases ok
              · obtain rfl := Except.ok.inj ok
                apply noEscape_pad fill opening
                rw [noEscape_reverse]
                apply noEscape_groupDigits (mark m marked)
                rwa [noEscape_reverse]

theorem layText_noEscape {l : Layout} (fill : l.fill ≠ escape) {s t : Text} (clear : s.NoEscape)
    (ok : layText l s = .ok t) : t.NoEscape := by
  simp only [layText] at ok
  split at ok
  · obtain rfl := Except.ok.inj ok
    exact noEscape_pad fill noEscape_nil (clear.mono (List.take_subset _ s))
  · cases ok

include quiet in
theorem Value.NoEscape.lay {v : Value} (clear : v.NoEscape) {layout t : Text}
    (plain : layout.NoEscape) (ok : v.lay extras layout = .ok t) : t.NoEscape := by
  simp only [Value.lay] at ok
  split at ok
  · exact clear.plain ok
  · cases v with
    | number n =>
        cases read : readLayout .right layout with
        | error flaw =>
            rw [read] at ok
            cases ok
        | ok l =>
            rw [read] at ok
            obtain ⟨fill, mark⟩ := readLayout_noEscape plain read
            exact layNumber_noEscape quiet fill mark ok
    | text s =>
        cases read : readLayout .left layout with
        | error flaw =>
            rw [read] at ok
            cases ok
        | ok l =>
            rw [read] at ok
            exact layText_noEscape (readLayout_noEscape plain read).1 clear ok

end Layout

section Fields

theorem subset_of_cutName {inside : Bool} {s name after : Text} {mark : Char}
    (cut : cutName inside s = .ok (name, mark, after)) : after ⊆ s := by
  induction s generalizing inside name with
  | nil => cases inside <;> cases cut
  | cons c rest ih =>
      have further {inner : Bool} {tail : Text}
          (cut : cutName inner rest = .ok (tail, mark, after)) : after ⊆ c :: rest :=
        List.subset_cons_of_subset c (ih cut)
      cases inside with
      | true =>
          simp only [cutName, bind, Except.bind, pure, Except.pure] at cut
          split at cut
          · cases cut
          · rename_i found
            cases cut
            exact further found
      | false =>
          simp only [cutName, bind, Except.bind, pure, Except.pure] at cut
          split at cut
          · cases cut
          · split at cut
            · cases cut
              exact List.subset_cons_self _ _
            · split at cut
              · cases cut
              · rename_i found
                cases cut
                exact further found

theorem subset_of_cutLayout {opened : Nat} {s layout after : Text}
    (cut : cutLayout opened s = .ok (layout, after)) : layout ⊆ s ∧ after ⊆ s := by
  induction s generalizing opened layout with
  | nil => cases cut
  | cons c rest ih =>
      simp only [cutLayout, bind, Except.bind, pure, Except.pure] at cut
      split at cut
      · cases cut
        exact ⟨List.nil_subset _, List.subset_cons_self c after⟩
      · split at cut
        · cases cut
        · rename_i found
          cases cut
          obtain ⟨inner, later⟩ := ih found
          exact ⟨List.cons_subset_cons c inner, List.subset_cons_of_subset c later⟩

theorem subset_of_cutField {s after : Text} {field : Field}
    (cut : cutField s = .ok (field, after)) : field.layout ⊆ s ∧ after ⊆ s := by
  simp only [cutField, bind, Except.bind, pure, Except.pure] at cut
  split at cut
  · cases cut
  · rename_i named
    have rest := subset_of_cutName named
    split at cut
    · cases cut
      exact ⟨List.nil_subset s, rest⟩
    · split at cut
      · split at cut
        · cases cut
        · rename_i laid
          cases cut
          obtain ⟨layout, later⟩ := subset_of_cutLayout laid
          exact ⟨List.Subset.trans layout rest, List.Subset.trans later rest⟩
      · split at cut
        · rename_i conversion tail marked
          rw [marked] at rest
          cases cut
          exact ⟨List.nil_subset s, fun c member =>
            rest (List.mem_cons_of_mem _ (List.mem_cons_of_mem _ member))⟩
        · rename_i conversion tail marked
          rw [marked] at rest
          have tail_subset : tail ⊆ s := fun c member =>
            rest (List.mem_cons_of_mem _ (List.mem_cons_of_mem _ member))
          split at cut
          · cases cut
          · rename_i laid
            cases cut
            obtain ⟨layout, later⟩ := subset_of_cutLayout laid
            exact ⟨List.Subset.trans layout tail_subset, List.Subset.trans later tail_subset⟩
        · cases cut

theorem memberOf_noEscape {v w : Value} {name : Text} (found : memberOf v name = some w) :
    w.NoEscape := by
  simp only [memberOf] at found
  split at found
  · split_ifs at found <;> cases found <;> trivial
  · cases found

theorem itemOf_noEscape {v w : Value} (clear : v.NoEscape) {index : Option Nat}
    (ok : itemOf v index = .ok w) : w.NoEscape := by
  simp only [itemOf] at ok
  split at ok
  · cases ok
  · cases ok
  · split at ok
    · rename_i c found
      obtain rfl := Except.ok.inj ok
      exact Text.NoEscape.mono clear (by simpa using List.mem_of_getElem? found)
    · cases ok

theorem follow_noEscape {v : Value} {found : Found} {s : Text} (clear : v.NoEscape)
    (ok : follow v s = .ok found) : found.NoEscape := by
  fun_induction follow v s with
  | case1 v =>
      obtain rfl := Except.ok.inj ok
      exact clear
  | case3 v rest shorter next named =>
      obtain rfl := Except.ok.inj ok
      exact clear
  | case4 v rest shorter next named found ih => exact ih (memberOf_noEscape found) ok
  | case6 v rest bracket after closed shorter key ne ih =>
      simp only [bind, Except.bind] at ok
      split at ok
      · cases ok
      · split at ok
        · cases ok
        · split at ok
          · cases ok
          · rename_i item
            exact ih _ (itemOf_noEscape clear item) ok
  | _ => cases ok

theorem foundBy_noEscape {fields : Fields} (clear : ∀ name v, fields name = some v → v.NoEscape)
    {name : Text} {found : Found} (ok : foundBy fields name = .ok found) : found.NoEscape := by
  simp only [foundBy, bind, Except.bind] at ok
  split at ok
  · cases ok
  · split at ok
    · cases ok
    · split at ok
      · cases ok
      · split at ok
        · cases ok
        · rename_i first found
          exact follow_noEscape (clear _ _ found) ok

theorem convert_noEscape {conversion : Option Char} {v w : Value} (clear : v.NoEscape)
    (ok : convert conversion v = .ok w) : w.NoEscape := by
  have written {text : Except Flaw Text} (each : ∀ t, text = .ok t → t.NoEscape)
      (ok : Value.text <$> text = .ok w) : w.NoEscape := by
    cases text with
    | error flaw => cases ok
    | ok t =>
        obtain rfl := Except.ok.inj ok
        exact each t rfl
  simp only [convert] at ok
  split at ok
  · obtain rfl := Except.ok.inj ok
    exact clear
  · exact written (fun t => clear.plain) ok
  · obtain rfl := Except.ok.inj ok
    exact Text.NoEscape.quoted clear
  · obtain rfl := Except.ok.inj ok
    exact Text.NoEscape.quoted clear
  · exact written (fun t => decimal_noEscape) ok
  · exact written (fun t => decimal_noEscape) ok
  · cases ok

variable {extras : Extras}

theorem Found.NoEscape.lay (quiet : extras.NoEscape) {found : Found} (clear : found.NoEscape)
    {conversion : Option Char} {lay : Text → Except Flaw Text}
    (ok : found.lay extras conversion = .ok lay) {layout t : Text} (plain : layout.NoEscape)
    (laid : lay layout = .ok t) : t.NoEscape := by
  cases found with
  | extra v path => exact quiet.member v path conversion lay layout t clear plain ok laid
  | value v =>
      simp only [Found.lay, bind, Except.bind, pure, Except.pure] at ok
      split at ok
      · cases ok
      · rename_i w converted
        obtain rfl := Except.ok.inj ok
        exact (convert_noEscape clear converted).lay quiet plain laid

theorem expandWith_noEscape {shown : Field → Except Flaw Text}
    (each : ∀ field t, field.layout.NoEscape → shown field = .ok t → t.NoEscape) {s t : Text}
    (clear : s.NoEscape) (ok : expandWith shown s = .ok t) : t.NoEscape := by
  have put {c : Char} {rest t : Text} (clear : NoEscape (c :: rest))
      (ih : ∀ {t}, NoEscape rest → expandWith shown rest = .ok t → NoEscape t)
      (ok : (do pure (c :: (← expandWith shown rest))) = Except.ok t) : t.NoEscape := by
    obtain ⟨ne, clear⟩ := noEscape_cons.1 clear
    simp only [bind, Except.bind, pure, Except.pure] at ok
    split at ok
    · cases ok
    · rename_i found
      obtain rfl := Except.ok.inj ok
      exact noEscape_cons.2 ⟨ne, ih clear found⟩
  fun_induction expandWith shown s generalizing t with
  | case1 =>
      obtain rfl := Except.ok.inj ok
      exact noEscape_nil
  | case2 rest ih => exact put (noEscape_cons.1 clear).2 ih ok
  | case3 rest ih => exact put (noEscape_cons.1 clear).2 ih ok
  | case6 rest field after cut shorter notDoubled notClosed ne ih =>
      obtain ⟨layout, later⟩ := subset_of_cutField cut
      have clear := (noEscape_cons.1 clear).2
      simp only [bind, Except.bind, pure, Except.pure] at ok
      split at ok
      · cases ok
      · rename_i field_shown
        split at ok
        · cases ok
        · rename_i others
          obtain rfl := Except.ok.inj ok
          rw [noEscape_append]
          exact ⟨each field _ (clear.mono layout) field_shown, ih (clear.mono later) others⟩
  | case7 c rest notDoubled notClosed other plain ih => exact put clear ih ok
  | _ => cases ok

theorem showField_noEscape (quiet : extras.NoEscape) {fields : Fields}
    (clear : ∀ name v, fields name = some v → v.NoEscape) {expand : Text → Except Flaw Text}
    (inner : ∀ s t, s.NoEscape → expand s = .ok t → t.NoEscape) {field : Field} {t : Text}
    (layout : field.layout.NoEscape) (ok : showField extras fields expand field = .ok t) :
    t.NoEscape := by
  simp only [showField, bind, Except.bind, pure, Except.pure] at ok
  split at ok
  · cases ok
  · rename_i found asked
    split at ok
    · cases ok
    · rename_i lay given
      have value := foundBy_noEscape clear asked
      split at ok
      · split at ok
        · cases ok
        · rename_i laid expanded
          exact value.lay quiet given (inner _ _ layout expanded) ok
      · exact value.lay quiet given layout ok

theorem expandTo_noEscape (quiet : extras.NoEscape) {fields : Fields}
    (clear : ∀ name v, fields name = some v → v.NoEscape) (depth : Nat) {s t : Text}
    (plain : s.NoEscape) (ok : expandTo extras fields depth s = .ok t) : t.NoEscape := by
  induction depth generalizing s t with
  | zero => cases ok
  | succ depth ih =>
      have inner (s t : Text) (plain : s.NoEscape) (ok : expandTo extras fields depth s = .ok t) :
          t.NoEscape := ih plain ok
      exact expandWith_noEscape
        (fun field t layout => showField_noEscape quiet clear inner layout) plain ok

end Fields

end Template

/-- What a template says holds no escape unless the template or the extras do. -/
theorem Wording.reportOf_noEscape {w : Wording} (clear : w.report.NoEscape)
    (quiet : w.extras.NoEscape) {p : Pose} {t : Text} (ok : w.reportOf p = .ok t) :
    t.NoEscape := by
  have fields : ∀ name v, Wording.fields p name = some v → v.NoEscape := by
    intro name v found
    simp only [Wording.fields] at found
    split_ifs at found
    · cases found
      trivial
    · cases found
      trivial
    · cases found
      exact p.heading.noEscape_label
  exact Template.expandTo_noEscape quiet fields 2 clear ok

end Rover
