import Rover.Text.Basic

namespace Rover

/-- Entries by key, in the order in which the keys first came. -/
structure Table (α : Type) where
  entries : List (Text × α)
  deriving DecidableEq, Repr

namespace Table

variable {α β : Type}

def keys (t : Table α) : List Text := t.entries.map (·.1)

def lookIn (key : Text) : List (Text × α) → Option α
  | [] => none
  | (k, a) :: rest => if k = key then some a else lookIn key rest

def get? (t : Table α) (key : Text) : Option α := lookIn key t.entries

def putIn (key : Text) (a : α) : List (Text × α) → List (Text × α)
  | [] => [(key, a)]
  | (k, b) :: rest => if k = key then (k, a) :: rest else (k, b) :: putIn key a rest

def put (t : Table α) (key : Text) (a : α) : Table α := ⟨putIn key a t.entries⟩

def empty : Table α := ⟨[]⟩

def ofList (entries : List (Text × α)) : Table α := entries.foldl (fun t e => t.put e.1 e.2) empty

theorem get?_put (t : Table α) (key k : Text) (a : α) :
    (t.put key a).get? k = if key = k then some a else t.get? k := by
  obtain ⟨entries⟩ := t
  simp only [put, get?]
  induction entries with
  | nil => simp [putIn, lookIn]
  | cons e rest ih =>
      obtain ⟨j, b⟩ := e
      simp only [putIn]
      by_cases h : j = key
      · subst h
        by_cases hk : j = k <;> simp [lookIn, hk]
      · by_cases hk : j = k
        · subst hk
          simp [h, lookIn, Ne.symm h]
        · simp [h, lookIn, hk, ih]

def sorted (t : Table α) : List (Text × α) :=
  t.entries.mergeSort fun a b => Text.precedes a.1 b.1

end Table

end Rover
