import Rover.Text.Basic

namespace Rover

inductive Heading where
  | north
  | east
  | south
  | west
  deriving DecidableEq, Repr

namespace Heading

def label : Heading → Text
  | .north => "NORTH".toList
  | .east => "EAST".toList
  | .south => "SOUTH".toList
  | .west => "WEST".toList

def all : List Heading := [.north, .east, .south, .west]

theorem mem_all (h : Heading) : h ∈ all := by cases h <;> simp [all]

def ofLabel? (s : Text) : Option Heading := all.find? (·.label == s)

theorem ofLabel?_label (h : Heading) : ofLabel? h.label = some h := by cases h <;> rfl

def right : Heading → Heading
  | .north => .east
  | .east => .south
  | .south => .west
  | .west => .north

def left : Heading → Heading
  | .north => .west
  | .west => .south
  | .south => .east
  | .east => .north

@[simp] theorem left_right (h : Heading) : h.right.left = h := by cases h <;> rfl

@[simp] theorem right_left (h : Heading) : h.left.right = h := by cases h <;> rfl

end Heading

end Rover
