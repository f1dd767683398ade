import Stencil.Value.Basic

/-!
# Objects

Namespaces and loops change while a template runs, and whoever holds one sees what becomes of it. So a
value is only the handle of such an object, and the object stands in a heap beside the variables.

What a handle stands for is asked in two ways. Its face is the object as a plain value whose parts are
still handles, for whoever takes it apart; a value as it is seen has no handles left in it, for whoever
prints or compares it. The heap notes which objects are as they were when an evaluation started: that
tells whether a fragment has left anything behind but its text.
-/

namespace Stencil

/-- What can change while it is shared. -/
inductive Object where
  /-- A namespace: fields that templates assign, in the order of their names. -/
  | space (fields : List (String × Value))
  /-- A loop: its items, the place that it has come to, and what was last compared with its
  `changed`. -/
  | loop (items : List Value) (index0 : Nat) (compared : Option (List Value))

namespace Object

/-- The object as a plain value. -/
def face : Object → Value
  | space fields => .map (fields.map fun e => (.ofString e.1, e.2))
  | loop items index0 _ => .loop ⟨index0, items.length⟩

/-- What a loop can be asked about its progress. -/
def progress? (items : List Value) (index0 : Nat) (name : String) : Option Value :=
  if name == "index" then some (.int (index0 + 1))
  else if name == "index0" then some (.int index0)
  else if name == "first" then some (.bool (index0 == 0))
  else if name == "last" then some (.bool (index0 + 1 == items.length))
  else if name == "length" then some (.int items.length)
  else if name == "revindex" then some (.int (items.length - index0 : Nat))
  else if name == "revindex0" then some (.int (items.length - index0 - 1 : Nat))
  else if name == "depth" then some (.int 1)
  else if name == "depth0" then some (.int 0)
  else if name == "previtem" then if index0 == 0 then none else items[index0 - 1]?
  else if name == "nextitem" then items[index0 + 1]?
  else none

/-- A field of the object. -/
def field? (name : String) : Object → Option Value
  | space fields => fields.lookup name
  | loop items index0 _ => progress? items index0 name

/-- The loop at a place; a namespace has none. -/
def advance (index0 : Nat) : Object → Object
  | loop items _ compared => loop items index0 compared
  | space fields => space fields

/-- The loop with what was last compared; a namespace has nothing of that kind. -/
def compare (args : List Value) : Object → Object
  | loop items index0 _ => loop items index0 (some args)
  | space fields => space fields

end Object

/-- The objects of an evaluation. The first `intact` of them are as they were when it started. -/
structure Heap where
  objects : List Object
  intact : Nat

namespace Heap

/-- The objects that an evaluation starts with, all of them as they are. -/
def start (objects : List Object) : Heap := ⟨objects, objects.length⟩

/-- The heap with one more object. -/
def create (h : Heap) (o : Object) : Heap := { h with objects := h.objects ++ [o] }

/-- The heap with an object changed. -/
def alter (h : Heap) (id : Nat) (f : Object → Object) : Heap :=
  ⟨h.objects.modify id f, min h.intact id⟩

/-- Whether an evaluation that started with the objects of the heap and ended with those of another has
changed one of them. -/
def movedTo (h after : Heap) : Bool := after.intact < h.objects.length

/-- The heap of a caller after an evaluation that started with its objects. What the evaluation has made
for itself is only of use to someone who can get hold of it, through an object that was changed. -/
def settle (h after : Heap) : Heap :=
  if h.movedTo after then ⟨after.objects, min h.intact after.intact⟩ else h

/-- Where nothing was changed, the caller goes on with what there was. -/
theorem settle_of_not_movedTo {h after : Heap} (hmoved : h.movedTo after = false) :
    h.settle after = h := by
  unfold settle
  rw [hmoved]
  rfl

end Heap

namespace Value

/-- The value that a handle stands for, whose parts are still handles; any other value is itself. -/
def face (objects : List Object) : Value → Value
  | object id => (objects[id]?.map Object.face).getD (undefined false)
  | v => v

/-- The handle of a loop with the place that the loop has come to and what was last compared. -/
def loop? (objects : List Object) : Value → Option (Nat × Nat × Option (List Value))
  | object id =>
    match objects[id]? with
    | some (.loop _ index0 compared) => some (id, index0, compared)
    | _ => none
  | _ => none

mutual

/-- A value with other values in place of its handles. -/
def withObjects (f : Nat → Value) : Value → Value
  | list items => list (withObjectsAll f items)
  | map entries => map (withObjectsEntries f entries)
  | keywords entries => keywords (withObjectsKeywords f entries)
  | object id => f id
  | v => v

/-- The items of a list with other values in place of their handles. -/
def withObjectsAll (f : Nat → Value) : List Value → List Value
  | [] => []
  | v :: rest => withObjects f v :: withObjectsAll f rest

/-- The entries of a map with other values in place of their handles. -/
def withObjectsEntries (f : Nat → Value) : List (Value × Value) → List (Value × Value)
  | [] => []
  | e :: rest => withObjectsEntry f e :: withObjectsEntries f rest

/-- One entry of a map with other values in place of its handles. -/
def withObjectsEntry (f : Nat → Value) : Value × Value → Value × Value
  | (k, v) => (withObjects f k, withObjects f v)

/-- Keyword arguments with other values in place of their handles. -/
def withObjectsKeywords (f : Nat → Value) : List (String × Value) → List (String × Value)
  | [] => []
  | e :: rest => withObjectsKeyword f e :: withObjectsKeywords f rest

/-- One keyword argument with other values in place of its handles. -/
def withObjectsKeyword (f : Nat → Value) : String × Value → String × Value
  | (k, v) => (k, withObjects f v)

end

/-- The value as it is seen through so many objects inside one another. -/
def seenThrough (objects : List Object) : Nat → Value → Value
  | 0, v => v.withObjects fun _ => undefined false
  | depth + 1, v => v.withObjects fun id => seenThrough objects depth ((object id).face objects)

/-- The value as it is seen: no handle is left. Objects that do not hold themselves are no more deeply
inside one another than there are objects. -/
def seen (objects : List Object) (v : Value) : Value := v.seenThrough objects objects.length

/-- A text has no handles in it. -/
theorem seen_text (objects : List Object) (s : String) (safe : Bool) :
    (text s safe).seen objects = text s safe := by
  unfold seen
  cases objects.length with
  | zero => rfl
  | succ depth => rfl

end Value

end Stencil
