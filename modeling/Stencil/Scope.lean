import Stencil.Value

/-!
# Scopes

The variables in sight: a frame of bindings and the frames around it. An inner binding hides the
outer ones of its name.

* `Scope.get?_bind`, `Scope.get?_child`: what a new binding and a new frame change.
-/

namespace Stencil

/-- The innermost bindings and the frames around them, from the inside out. -/
structure Scope where
  bindings : Table Value
  outer : List (Table Value)
deriving Inhabited

namespace Scope

/-- No variables. -/
def empty : Scope := ⟨[], []⟩

/-- One frame of bindings. -/
def ofTable (bindings : Table Value) : Scope := ⟨bindings, []⟩

/-- The variables that the members of an object name. -/
def ofJson? : Json → Option Scope
  | .object members => some (ofTable (Value.ofJsonMembers [] members))
  | _ => none

/-- Binds a name in the innermost frame. -/
def bind (s : Scope) (name : String) (value : Value) : Scope :=
  { s with bindings := s.bindings.set name value }

/-- The first binding of a name in a row of frames. -/
def find? : List (Table Value) → String → Option Value
  | [], _ => none
  | frame :: rest, name =>
      match frame.get? name with
      | some value => some value
      | none => find? rest name

/-- The frames, from the inside out. -/
def frames (s : Scope) : List (Table Value) := s.bindings :: s.outer

/-- The value of a name. -/
def get? (s : Scope) (name : String) : Option Value := find? s.frames name

/-- Whether the name has a value. -/
def contains (s : Scope) (name : String) : Bool := (s.get? name).isSome

/-- The name that a segment asks a scope for. -/
def rootName : Segment → String
  | .key name => name
  | .index n => toString n

/-- The value at the end of a path whose first segment names the variable. -/
def at? (s : Scope) : List Segment → Option Value
  | [] => none
  | root :: path =>
      match s.get? (rootName root) with
      | some value => value.at? path
      | none => none

/-- A new frame inside the scope. -/
def child (s : Scope) : Scope := ⟨[], s.frames⟩

/-- All bindings in sight in one table. -/
def flatten : List (Table Value) → Table Value
  | [] => []
  | frame :: rest => (flatten rest).setAll frame

/-- The bindings of `s` in front of those of `base`. -/
def layer (s base : Scope) : Scope :=
  { base with bindings := base.bindings.setAll (flatten s.frames) }

theorem get?_eq (s : Scope) (name : String) :
    s.get? name =
      match s.bindings.get? name with
      | some value => some value
      | none => find? s.outer name := rfl

theorem get?_bind (s : Scope) (name other : String) (value : Value) :
    (s.bind name value).get? other = if name = other then some value else s.get? other := by
  simp only [get?_eq, bind, Table.get?_set]
  by_cases h : name = other <;> simp [h]

theorem get?_child (s : Scope) (name : String) : s.child.get? name = s.get? name := rfl

end Scope

end Stencil
