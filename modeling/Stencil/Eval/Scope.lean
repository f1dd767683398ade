import Stencil.Value.Object

/-!
# Variables in scope

A running template sees a stack of frames above the model it was given. A frame holds the variables
assigned in it, perhaps the loop that runs in it, and, for a routine, the variables that the routine took
along from the place of its definition. The variables that routines take along live in shared cells, so
that a routine sees what is assigned beside it later.

Main fact: `lookup_bindings`, the visible variables listed by name give every name the value it has.
-/

namespace Stencil.Eval

/-- Variables by name. -/
abbrev Variables := List (String × Value)

/-- The variables with one assigned. -/
def assign (name : String) (v : Value) : Variables → Variables
  | [] => [(name, v)]
  | (n, w) :: rest => if n == name then (name, v) :: rest else (n, w) :: assign name v rest

/-- One scope. -/
structure Frame where
  locals : Variables
  /-- The object of the loop that runs in the frame. -/
  loop : Option Nat
  /-- The cell of the routine that runs in the frame. -/
  taken : Option Nat
  /-- The cell of the routines defined in the frame. -/
  shared : Option Nat

/-- A frame without variables, for a loop or for none. -/
def Frame.around (loop : Option Nat) : Frame := ⟨[], loop, none, none⟩

/-- A frame without variables. -/
def Frame.empty : Frame := .around none

/-- The frames of a running template, the innermost first, with what lies under them. -/
structure Scope where
  frames : List Frame
  model : Variables
  cells : List Variables

/-- The variables of a frame, in the order in which they are found. -/
def Frame.visible (cells : List Variables) (f : Frame) : Variables :=
  f.locals
    ++ (match f.loop with
      | some id => [("loop", Value.object id)]
      | none => [])
    ++ (match f.taken with
      | some i => cells.getD i []
      | none => [])

namespace Scope

/-- All variables, the innermost first. -/
def visible (s : Scope) : Variables :=
  s.frames.flatMap (·.visible s.cells) ++ s.model

/-- The value of a variable. -/
def lookup? (s : Scope) (name : String) : Option Value := s.visible.lookup name

/-- The visible variables, each once. -/
def bindings (s : Scope) : Variables :=
  s.visible.foldr (fun e rest => e :: rest.filter (·.1 != e.1)) []

/-- The scope with a variable assigned in the innermost frame, and in the cell shared there. -/
def store (s : Scope) (name : String) (v : Value) : Scope :=
  match s.frames with
  | [] => s
  | f :: rest =>
    { s with
      frames := { f with locals := assign name v f.locals } :: rest
      cells := match f.shared with
        | some i => s.cells.modify i (assign name v)
        | none => s.cells }

/-- The cell of the routines defined in the innermost frame. -/
def shared? (s : Scope) : Option Nat := s.frames.head?.bind (·.shared)

/-- The scope with another cell, or none, for the routines defined in the innermost frame. -/
def share (s : Scope) (cell : Option Nat) : Scope :=
  match s.frames with
  | [] => s
  | f :: rest => { s with frames := { f with shared := cell } :: rest }

/-- The scope with a cell for routines defined in the innermost frame, and the cell's number. -/
def withCell (s : Scope) : Scope × Nat :=
  match s.frames with
  | [] => (s, 0)
  | f :: rest =>
    match f.shared with
    | some i => (s, i)
    | none =>
      let i := s.cells.length
      ({ s with frames := { f with shared := some i } :: rest, cells := s.cells ++ [[]] }, i)

/-- The scope with variables taken into a cell, unless the cell has them already. -/
def take (s : Scope) (cell : Nat) (found : Variables) : Scope :=
  { s with
    cells := s.cells.modify cell fun vs =>
      vs ++ found.filter fun e => !vs.any (·.1 == e.1) }

end Scope

/-- Leaving out the entries of another name does not change a name's value. -/
theorem lookup_filter_ne {name other : String} (h : name ≠ other) (vs : Variables) :
    (vs.filter (·.1 != other)).lookup name = vs.lookup name := by
  induction vs with
  | nil => rfl
  | cons e rest ih =>
    obtain ⟨n, v⟩ := e
    by_cases hn : n = other
    · subst hn
      have hb : (name == n) = false := by simpa using h
      simp [List.lookup_cons, ih, hb]
    · by_cases he : name = n
      · subst he
        simp [hn]
      · have hb : (name == n) = false := by simpa using he
        simp [List.lookup_cons, hn, ih, hb]

/-- The visible variables listed by name give every name its value. -/
theorem Scope.lookup_bindings (s : Scope) (name : String) :
    s.bindings.lookup name = s.lookup? name := by
  simp only [Scope.bindings, Scope.lookup?]
  induction s.visible with
  | nil => rfl
  | cons e rest ih =>
    obtain ⟨n, v⟩ := e
    simp only [List.foldr_cons, List.lookup_cons]
    by_cases h : name = n
    · subst h
      simp
    · have hb : (name == n) = false := by simpa using h
      simp only [hb]
      rw [lookup_filter_ne h, ih]

end Stencil.Eval
