import Stencil.Value.Order

/-!
# Parts of values

The items and fields of a value, and the values that a loop or a list of targets takes from it.
-/

namespace Stencil

namespace Value

/-- A single character as a value. -/
def ofChar (c : Char) : Value := ofString (String.ofList [c])

/-- The element at a position; a negative position counts from the end. -/
def elementAt? {α : Type} (items : List α) (i : Int) : Option α :=
  if 0 ≤ i then items[i.toNat]?
  else if (-i).toNat ≤ items.length then items[items.length - (-i).toNat]?
  else none

/-- The item of a value under a key or at a position. -/
def item? (objects : List Object) (v key : Value) : Option Value :=
  match v with
  | list items => (asInt? key).bind (elementAt? items)
  | text s _ => ((asInt? key).bind (elementAt? s.toList)).map ofChar
  | map entries => valueAt? objects key entries
  | keywords entries => (asText? key).bind fun name => entries.lookup name
  | object id => (asText? key).bind fun name => objects[id]?.bind (·.field? name)
  | routine r =>
    (asText? key).bind fun name =>
      if name == "name" then some (ofString r.name)
      else if name == "arguments" then some (list (r.params.map ofString))
      else none
  | _ => none

/-- The items that iterating over the face of a value gives; no items for an undefined value or for
nothing. -/
def items? : Value → Option (List Value)
  | undefined _ => some []
  | null => some []
  | list items => some items
  | text s _ => some (s.toList.map ofChar)
  | map entries => some (entries.map (·.1))
  | keywords entries => some (entries.map fun e => ofString e.1)
  | loop _ => some []
  | routine _ => some []
  | _ => none

/-- The length of the face of a value. -/
def length? : Value → Option Nat
  | text s _ => some s.length
  | list items => some items.length
  | map entries => some entries.length
  | keywords entries => some entries.length
  | loop _ => some 0
  | routine _ => some 0
  | _ => none

/-- A map from texts to values. -/
def ofFields (fields : List (String × Value)) : Value :=
  ofEntries [] (fields.map fun e => (ofString e.1, e.2))

end Value

end Stencil
