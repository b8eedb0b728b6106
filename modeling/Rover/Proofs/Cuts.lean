import Rover.Proofs.LineBreaks
import Rover.Proofs.Utf8

namespace Rover.Text

section

variable {α : Type}

def extendAll (front : List α) (pieces : List (List α)) : List (List α) := front.foldr extend pieces

theorem extendAll_eq {front : List α} (some : front ≠ []) (pieces : List (List α)) :
    extendAll front pieces = (front ++ pieces.headD []) :: pieces.tail := by
  induction front with
  | nil => exact absurd rfl some
  | cons a front ih =>
      cases front with
      | nil => cases pieces <;> rfl
      | cons b front =>
          rw [extendAll, List.foldr_cons, ← extendAll, ih (List.cons_ne_nil b front)]
          rfl

variable [DecidableEq α] {stop : α → Bool} {cr lf a : α} {rest : List α}

theorem cutLines_pair (rest : List α) :
    cutLines stop cr lf (cr :: lf :: rest) = [] :: cutLines stop cr lf rest := by
  rw [cutLines, if_pos ⟨rfl, rfl⟩]

theorem cutLines_stop (stopped : stop a = true) (single : a = cr → rest.head? ≠ some lf) :
    cutLines stop cr lf (a :: rest) = [] :: cutLines stop cr lf rest := by
  cases rest with
  | nil => simp [cutLines, stopped]
  | cons b rest =>
      rw [cutLines, if_neg (fun pair => single pair.1 (congrArg some pair.2)), if_pos stopped]

theorem cutLines_go (going : stop a = false) (other : a ≠ cr) :
    cutLines stop cr lf (a :: rest) = extend a (cutLines stop cr lf rest) := by
  cases rest with
  | nil => simp [cutLines, going, extend]
  | cons b rest => rw [cutLines, if_neg (fun pair => other pair.1), if_neg (by simp [going])]

theorem cutLines_append {front : List α} (going : ∀ a ∈ front, stop a = false ∧ a ≠ cr) :
    cutLines stop cr lf (front ++ rest) = extendAll front (cutLines stop cr lf rest) := by
  induction front with
  | nil => rfl
  | cons a front ih =>
      obtain ⟨⟨first, other⟩, later⟩ := List.forall_mem_cons.1 going
      rw [List.cons_append, cutLines_go first other, ih later]
      rfl

theorem cutAfter_append {front : List α} (going : ∀ a ∈ front, a ≠ lf) :
    cutAfter lf (front ++ rest) = extendAll front (cutAfter lf rest) := by
  induction front with
  | nil => rfl
  | cons a front ih =>
      obtain ⟨first, later⟩ := List.forall_mem_cons.1 going
      rw [List.cons_append, cutAfter, if_neg first, ih later]
      rfl

end

theorem utf8_cons (c : Char) (s : Text) : utf8 (c :: s) = String.utf8EncodeChar c ++ utf8 s :=
  List.flatMap_cons

theorem map_utf8_extend (c : Char) (pieces : List Text) :
    (extend c pieces).map utf8 = extendAll (String.utf8EncodeChar c) (pieces.map utf8) := by
  rw [extendAll_eq (Encoding.utf8EncodeChar_ne_nil c)]
  cases pieces with
  | nil => rw [extend, List.map_singleton, utf8_cons]; rfl
  | cons piece pieces => rw [extend, List.map_cons, utf8_cons]; rfl

theorem head?_utf8 {s : Text} (feed : (utf8 s).head? = some 0x0A) : s.head? = some '\n' := by
  cases s with
  | nil => cases feed
  | cons c rest =>
      have first : 0x0A ∈ String.utf8EncodeChar c := by
        obtain ⟨a, tail, bytes, -⟩ := Encoding.stepUtf8_utf8EncodeChar c
        rw [utf8_cons, bytes] at feed
        rw [bytes, Option.some.inj feed]
        exact List.mem_cons_self
      have same := (Encoding.mem_utf8EncodeChar first (by decide)).2
      exact congrArg some (Char.toNat_inj.1 same)

theorem cutAfter_utf8 (s : Text) : cutAfter 0x0A (utf8 s) = (cutAfter '\n' s).map utf8 := by
  induction s with
  | nil => rfl
  | cons c rest ih =>
      rw [utf8_cons, cutAfter]
      split
      · rename_i feed
        subst feed
        rw [List.map_cons, ← ih]
        rfl
      · rename_i other
        rw [map_utf8_extend, ← ih]
        exact cutAfter_append fun b member => Encoding.ne_of_mem_utf8EncodeChar member other
          (by decide)

inductive Plain : Text → Prop
  | nil : Plain []
  | pair {rest : Text} (later : Plain rest) : Plain ('\r' :: '\n' :: rest)
  | feed {rest : Text} (later : Plain rest) : Plain ('\n' :: rest)
  | lone {rest : Text} (apart : rest.head? ≠ some '\n') (later : Plain rest) :
      Plain ('\r' :: rest)
  | other {c : Char} {rest : Text} (going : isBreak c = false) (noFeed : c ≠ '\n')
      (noReturn : c ≠ '\r') (later : Plain rest) : Plain (c :: rest)

theorem HasOnlyLineEnds.plain {s : Text} (only : HasOnlyLineEnds s) : Plain s := by
  fun_induction uniformBreaks s with
  | case1 => exact .nil
  | case2 rest ih => exact .pair (ih fun c member => only c (by simp [member]))
  | case3 c rest single ih =>
      have later := ih fun d member => only d (List.mem_cons_of_mem c member)
      cases stops : isBreak c with
      | true =>
          rcases only c List.mem_cons_self stops with rfl | rfl
          · exact .feed later
          · refine .lone (fun feed => ?_) later
            obtain ⟨tail, rfl⟩ := List.head?_eq_some_iff.1 feed
            exact single tail rfl rfl
      | false =>
          refine .other stops ?_ ?_ later
          · rintro rfl
            exact absurd stops (by decide)
          · rintro rfl
            exact absurd stops (by decide)

variable {s : Text}

theorem rawLines_utf8 (plain : Plain s) : rawLines (utf8 s) = (lines s).map utf8 := by
  unfold rawLines lines
  induction plain with
  | nil => rfl
  | @pair rest later ih =>
      rw [cutLines_pair, List.map_cons, ← ih]
      exact cutLines_pair (utf8 rest)
  | feed later ih =>
      rw [cutLines_stop (by decide) (by simp), List.map_cons, ← ih]
      exact cutLines_stop (by decide) (fun ret => absurd ret (by decide))
  | lone apart later ih =>
      rw [cutLines_stop (by decide) (fun _ => apart), List.map_cons, ← ih]
      exact cutLines_stop (by decide) fun _ feed => apart (head?_utf8 feed)
  | other going noFeed noReturn later ih =>
      rw [cutLines_go going noReturn, map_utf8_extend, ← ih, utf8_cons]
      apply cutLines_append
      intro b member
      have feed := Encoding.ne_of_mem_utf8EncodeChar member noFeed (by decide)
      have ret := Encoding.ne_of_mem_utf8EncodeChar member noReturn (by decide)
      exact ⟨by simpa using ⟨feed, ret⟩, ret⟩

theorem uniformBreaks_cons {c : Char} (noReturn : c ≠ '\r') (rest : Text) :
    uniformBreaks (c :: rest) = c :: uniformBreaks rest := by
  rw [uniformBreaks, if_neg noReturn]
  intro tail ret
  exact absurd ret noReturn

theorem uniformBreaks_lone {rest : Text} (apart : rest.head? ≠ some '\n') :
    uniformBreaks ('\r' :: rest) = '\n' :: uniformBreaks rest := by
  rw [uniformBreaks, if_pos rfl]
  rintro tail - rfl
  exact apart rfl

theorem lines_uniform (plain : Plain s) : lines (uniformBreaks s) = lines s := by
  unfold lines
  induction plain with
  | nil => rfl
  | pair later ih =>
      rw [uniformBreaks, cutLines_pair, cutLines_stop (by decide) (by simp), ih]
  | feed later ih =>
      rw [uniformBreaks_cons (by decide), cutLines_stop (by decide) (by simp),
        cutLines_stop (by decide) (by simp), ih]
  | lone apart later ih =>
      rw [uniformBreaks_lone apart, cutLines_stop (by decide) (by simp),
        cutLines_stop (by decide) (fun _ => apart), ih]
  | other going noFeed noReturn later ih =>
      rw [uniformBreaks_cons noReturn, cutLines_go going noReturn, cutLines_go going noReturn, ih]

def ReturnsPaired (s : Text) : Prop := ∀ i < s.length, s[i]? = some '\r' → s[i + 1]? = some '\n'

instance (s : Text) : Decidable (ReturnsPaired s) := by
  unfold ReturnsPaired
  infer_instance

theorem ReturnsPaired.tail {c : Char} {rest : Text} (paired : ReturnsPaired (c :: rest)) :
    ReturnsPaired rest := by
  intro i lt ret
  exact paired (i + 1) (Nat.succ_lt_succ lt) ret

theorem ReturnsPaired.head {rest : Text} (paired : ReturnsPaired ('\r' :: rest)) :
    rest.head? = some '\n' := by
  rw [List.head?_eq_getElem?]
  exact paired 0 (Nat.zero_lt_succ _) rfl

/-- The lines with their ends, cut at every break, `\r\n` being one. -/
def linesWithEnds : Text → List Text
  | [] => []
  | '\r' :: '\n' :: rest => ['\r', '\n'] :: linesWithEnds rest
  | c :: rest => if isBreak c then [c] :: linesWithEnds rest else extend c (linesWithEnds rest)

theorem linesWithEnds_cons {c : Char} (noReturn : c ≠ '\r') (rest : Text) :
    linesWithEnds (c :: rest) =
      if isBreak c then [c] :: linesWithEnds rest else extend c (linesWithEnds rest) := by
  rw [linesWithEnds]
  intro tail ret
  exact absurd ret noReturn

theorem linesWithEnds_eq_cutAfter (plain : Plain s) (paired : ReturnsPaired s) :
    linesWithEnds s = cutAfter '\n' s := by
  induction plain with
  | nil => rfl
  | pair later ih => rw [linesWithEnds, ih paired.tail.tail]; rfl
  | feed later ih => rw [linesWithEnds_cons (by decide), ih paired.tail]; rfl
  | lone apart later ih => exact absurd paired.head apart
  | other going noFeed noReturn later ih =>
      rw [linesWithEnds_cons noReturn, ih paired.tail, cutAfter, if_neg noFeed, going]
      rfl

theorem map_chomp_cutAfter (plain : Plain s) (paired : ReturnsPaired s) :
    (cutAfter '\n' s).map chomp = lines s := by
  unfold lines
  induction plain with
  | nil => rfl
  | pair later ih => rw [cutLines_pair, ← ih paired.tail.tail]; rfl
  | feed later ih => rw [cutLines_stop (by decide) (by simp), ← ih paired.tail]; rfl
  | lone apart later ih => exact absurd paired.head apart
  | other going noFeed noReturn later ih =>
      rw [cutLines_go going noReturn, ← ih paired.tail, ← map_chomp_extend noReturn noFeed,
        cutAfter, if_neg noFeed]

end Rover.Text
