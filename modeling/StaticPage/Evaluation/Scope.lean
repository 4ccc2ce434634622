import StaticPage.Json.Value

/-!
# Scopes

A scope is a stack of frames of loop variables. A name means its innermost binding, and in one frame
the last one.
-/

namespace StaticPage

/-- The variables that a loop binds for one of its items. -/
abbrev Frame := List (String × Json.Value)

/-- The value of a variable in a frame, the last one if there are several. -/
def Frame.get? (frame : Frame) (name : String) : Option Json.Value :=
  frame.reverse.lookup name

/-- The frames around a part of the body, the innermost first. -/
structure Scope where
  inner : Frame
  outer : List Frame
  deriving Repr, Inhabited

namespace Scope

def root : Scope := ⟨[], []⟩

/-- The scope inside a loop. -/
def child (s : Scope) (frame : Frame) : Scope :=
  ⟨frame, s.inner :: s.outer⟩

def parent? (s : Scope) : Option Scope :=
  match s.outer with
  | [] => none
  | frame :: rest => some ⟨frame, rest⟩

/-- A scope with one more variable in its innermost frame. -/
def define (s : Scope) (name : String) (value : Json.Value) : Scope :=
  { s with inner := s.inner ++ [(name, value)] }

def get? (s : Scope) (name : String) : Option Json.Value :=
  (s.inner :: s.outer).findSome? (·.get? name)

/-- The number of frames around the innermost one. -/
def depth (s : Scope) : Nat :=
  s.outer.length

@[simp] theorem parent?_child (s : Scope) (frame : Frame) : (s.child frame).parent? = some s := rfl

@[simp] theorem depth_child (s : Scope) (frame : Frame) : (s.child frame).depth = s.depth + 1 := rfl

theorem get?_child (s : Scope) (frame : Frame) (name : String) :
    (s.child frame).get? name = (frame.get? name).or (s.get? name) := by
  simp only [get?, child, List.findSome?_cons]
  cases frame.get? name <;> rfl

end Scope

end StaticPage
