import Stencil.Value.Object
import Stencil.Decimal.Binary

/-!
# Equality and order of values

Numbers are compared by value, whole or not, and a truth value compares as the number one or zero
with numbers. Unlike kinds are never equal and are ordered by kind. What is compared are values as they
are seen; the keys of a map may be handles, and are compared as they are seen now.
-/

namespace Stencil.Value

open Stencil.Decimal

/-- Two numbers brought to a common form. -/
inductive NumberPair where
  | ints (a b : Int)
  | floats (a b : Float)

/-- The value as a whole number: whole numbers, truth values, and floats without a fraction. -/
def asInt? : Value → Option Int
  | bool b => some (if b then 1 else 0)
  | int n => some n
  | float x => toInt? x
  | _ => none

/-- The value as a float: numbers and truth values. -/
def asFloat? : Value → Option Float
  | bool b => some (if b then 1.0 else 0.0)
  | int n => some (Float.ofInt n)
  | float x => some x
  | _ => none

/-- Two values as a pair of numbers: floats as soon as one is a float, whole numbers otherwise. -/
def numberPair? (v w : Value) : Option NumberPair :=
  match v, w with
  | float x, _ => (asFloat? w).map (.floats x)
  | _, float y => (asFloat? v).map (.floats · y)
  | _, _ =>
    match asInt? v, asInt? w with
    | some a, some b => some (.ints a b)
    | _, _ => none

/-- Whether a float stands for a value: a whole number need not have one. -/
def isExact (v : Value) (x : Float) : Bool :=
  match v with
  | int n => toInt? x == some n
  | _ => true

/-- Whether two values that are numbers or truth values are equal. -/
def sameNumber (v w : Value) : Bool :=
  match numberPair? v w with
  | some (.ints a b) => a == b
  | some (.floats a b) => isExact v a && isExact w b && a == b
  | none => false

/-- The order of two numbers. -/
def compareNumbers (v w : Value) : Ordering :=
  match numberPair? v w with
  | some (.ints a b) => compare a b
  | some (.floats a b) => compare (rank a) (rank b)
  | none => .eq

mutual

/-- Equality of values. -/
def same : Value → Value → Bool
  | undefined _, w => match w with
    | undefined _ => true
    | _ => false
  | null, w => match w with
    | null => true
    | _ => false
  | text s _, w => match w with
    | text t _ => s == t
    | _ => false
  | list xs, w => match w with
    | list ys => sameAll xs ys
    | _ => false
  | map es, w => match w with
    | map fs => sameEntries es fs
    | _ => false
  | keywords _, _ => false
  | builtin f, w => match w with
    | builtin g => f == g
    | _ => false
  | routine r, w => match w with
    | routine s => r == s
    | _ => false
  | loop l, w => match w with
    | loop m => l == m
    | _ => false
  | object i, w => match w with
    | object j => i == j
    | _ => false
  | bool a, w => sameNumber (bool a) w
  | int a, w => sameNumber (int a) w
  | float a, w => sameNumber (float a) w

/-- Equality of lists, item by item. -/
def sameAll : List Value → List Value → Bool
  | [], ys => ys.isEmpty
  | x :: xs, ys => match ys with
    | [] => false
    | y :: ys => same x y && sameAll xs ys

/-- Equality of maps with keys in order, entry by entry. -/
def sameEntries : List (Value × Value) → List (Value × Value) → Bool
  | [], fs => fs.isEmpty
  | e :: es, fs => match fs with
    | [] => false
    | f :: fs => sameEntry e f && sameEntries es fs

/-- Equality of map entries. -/
def sameEntry : Value × Value → Value × Value → Bool
  | (k, v), f => same k f.1 && same v f.2

end

mutual

/-- The order of values. -/
def order : Value → Value → Ordering
  | v, w =>
    match compare v.kind.rank w.kind.rank with
    | .lt => .lt
    | .gt => .gt
    | .eq => match v with
      | text s _ => match w with
        | text t _ => compare s t
        | _ => .eq
      | list xs => match w with
        | list ys => orderAll xs ys
        | _ => .eq
      | map es => match w with
        | map fs => orderEntries es fs
        | _ => .eq
      | v => compareNumbers v w

/-- The order of lists: by the first items that differ, a shorter list before its extensions. -/
def orderAll : List Value → List Value → Ordering
  | [], ys => if ys.isEmpty then .eq else .lt
  | x :: xs, ys => match ys with
    | [] => .gt
    | y :: ys => (order x y).then (orderAll xs ys)

/-- The order of maps, entry by entry. -/
def orderEntries : List (Value × Value) → List (Value × Value) → Ordering
  | [], fs => if fs.isEmpty then .eq else .lt
  | e :: es, fs => match fs with
    | [] => .gt
    | f :: fs => (orderEntry e f).then (orderEntries es fs)

/-- The order of map entries: by key, then by value. -/
def orderEntry : Value × Value → Value × Value → Ordering
  | (k, v), f => (order k f.1).then (order v f.2)

end

/-- The entries with one more, a value under the same key replaced, keys kept in order. -/
def insertEntry (objects : List Object) (k v : Value) : List (Value × Value) → List (Value × Value)
  | [] => [(k, v)]
  | (k', v') :: rest =>
    match order (k.seen objects) (k'.seen objects) with
    | .lt => (k, v) :: (k', v') :: rest
    | .eq => (k', v) :: rest
    | .gt => (k', v') :: insertEntry objects k v rest

/-- A map from its entries, later ones replacing earlier ones. -/
def ofEntries (objects : List Object) (entries : List (Value × Value)) : Value :=
  map (entries.foldl (fun es e => insertEntry objects e.1 e.2 es) [])

/-- The value under a key. -/
def valueAt? (objects : List Object) (k : Value) : List (Value × Value) → Option Value
  | [] => none
  | (k', v) :: rest =>
    if order (k.seen objects) (k'.seen objects) == .eq then some v else valueAt? objects k rest

end Stencil.Value
