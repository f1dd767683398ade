/-!
# Values

What a template computes with. Models supply the plain data (nothing, truth values, numbers, texts,
lists, maps); evaluation adds values that only exist while a template runs: undefined ones, the keyword
part of a call, functions, routines defined by a template, and handles of objects that can change.
-/

namespace Stencil

/-- Fields with one more, a value of the same name replaced, names kept in order. -/
def insertField {α : Type} (name : String) (v : α) : List (String × α) → List (String × α)
  | [] => [(name, v)]
  | (n, w) :: rest =>
    if name == n then (name, v) :: rest
    else if name < n then (name, v) :: (n, w) :: rest
    else (n, w) :: insertField name v rest

/-- Fields in the order of their names, later ones replacing earlier ones. -/
def sortFields {α : Type} (fields : List (String × α)) : List (String × α) :=
  fields.foldl (fun acc e => insertField e.1 e.2 acc) []

/-- The functions every template can call. -/
inductive Builtin where
  /-- Consecutive whole numbers. -/
  | range
  /-- A template rendered as a fragment and kept under a key. -/
  | fragment
  /-- A new namespace. -/
  | space
  /-- A map from the entries of another and keyword arguments. -/
  | dictionary
  deriving DecidableEq, Repr

/-- A routine that a template has defined. Its body is kept by the evaluation that defined it, under
`index`; `home` names that evaluation and `cell` the variables the routine took along. -/
structure Routine where
  name : String
  params : List String
  home : Nat
  index : Nat
  cell : Nat
  deriving DecidableEq, Repr

/-- How far a loop has come, as it is printed and compared. -/
structure LoopState where
  index0 : Nat
  length : Nat
  deriving DecidableEq, Repr

/-- The values of the template language. -/
inductive Value where
  /-- The value of a name that nothing defines. A `quiet` one is left by a condition without an
  alternative and may always be printed. -/
  | undefined (quiet : Bool)
  | null
  | bool (b : Bool)
  | int (n : Int)
  | float (x : Float)
  /-- A text; a `safe` one is printed without escaping. -/
  | text (s : String) (safe : Bool)
  | list (items : List Value)
  /-- A map with its keys in ascending order. -/
  | map (entries : List (Value × Value))
  /-- The keyword arguments of a call. -/
  | keywords (entries : List (String × Value))
  | builtin (f : Builtin)
  | routine (r : Routine)
  | loop (l : LoopState)
  /-- The handle of an object that can change while it is shared. -/
  | object (id : Nat)
  deriving Inhabited

/-- The kinds of values that messages tell apart, in the order in which unlike values are sorted. -/
inductive Kind where
  | undefined
  | null
  | bool
  | number
  | text
  | list
  | map
  | plain
  deriving DecidableEq, Repr

/-- The name of a kind in messages. -/
def Kind.name : Kind → String
  | .undefined => "undefined"
  | .null => "none"
  | .bool => "bool"
  | .number => "number"
  | .text => "string"
  | .list => "sequence"
  | .map => "map"
  | .plain => "plain object"

/-- The place of a kind among the kinds. -/
def Kind.rank : Kind → Nat
  | .undefined => 0
  | .null => 1
  | .bool => 2
  | .number => 3
  | .text => 4
  | .list => 5
  | .map => 6
  | .plain => 7

namespace Value

/-- The kind of a value. -/
def kind : Value → Kind
  | undefined _ => .undefined
  | null => .null
  | bool _ => .bool
  | int _ => .number
  | float _ => .number
  | text _ _ => .text
  | list _ => .list
  | map _ => .map
  | keywords _ => .map
  | builtin _ => .plain
  | routine _ => .map
  | loop _ => .map
  | object _ => .map

/-- A text that is escaped when printed. -/
def ofString (s : String) : Value := text s false

/-- Whether the value counts as true in a condition. -/
def isTrue : Value → Bool
  | undefined _ => false
  | null => false
  | bool b => b
  | int n => n != 0
  | float x => x != 0.0
  | text s _ => !s.isEmpty
  | list items => !items.isEmpty
  | map entries => !entries.isEmpty
  | keywords entries => !entries.isEmpty
  | builtin _ => true
  | routine _ => true
  | loop _ => true
  | object _ => true

/-- Whether nothing defines the value. -/
def isUndefined : Value → Bool
  | undefined _ => true
  | _ => false

/-- Whether strict evaluation refuses to use the value. -/
def isForbidden : Value → Bool
  | undefined quiet => !quiet
  | _ => false

/-- The text of a value that is a text. -/
def asText? : Value → Option String
  | text s _ => some s
  | _ => none

end Value

end Stencil
