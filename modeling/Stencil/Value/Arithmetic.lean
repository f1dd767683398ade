import Stencil.Value.Order
import Stencil.Value.Printed
import Stencil.Failure

/-!
# Operators on values

What the operators of the language compute. Whole numbers are exact within 128 bits and an operation
that would leave them fails; a truth value counts as one or zero; one float makes the operation a float
operation. Division always gives a float, while whole division and its remainder round so that the
remainder is never negative.
-/

namespace Stencil

/-- The operators that compute a value from two values. -/
inductive Operator where
  | add
  | subtract
  | multiply
  | divide
  | floorDivide
  | modulo
  | power
  | concat
  | equal
  | unequal
  | less
  | lessEqual
  | greater
  | greaterEqual
  /-- Whether the right value contains the left one. -/
  | within
  deriving DecidableEq, Repr

/-- How an operator is written in messages. -/
def Operator.spelling : Operator → String
  | .add => "+"
  | .subtract => "-"
  | .multiply => "*"
  | .divide => "/"
  | .floorDivide => "//"
  | .modulo => "%"
  | .power => "**"
  | .concat => "~"
  | .equal => "=="
  | .unequal => "!="
  | .less => "<"
  | .lessEqual => "<="
  | .greater => ">"
  | .greaterEqual => ">="
  | .within => "in"

/-- How an operator relates to undefined operands. -/
inductive Operator.Care where
  /-- Both operands have to be defined. -/
  | both
  /-- The right operand has to be defined. -/
  | right
  /-- The operator itself decides. -/
  | neither
  deriving DecidableEq, Repr

/-- Which operands strict evaluation wants to be defined. -/
def Operator.care : Operator → Operator.Care
  | .concat | .equal | .unequal | .less | .lessEqual | .greater | .greaterEqual => .both
  | .within => .right
  | _ => .neither

namespace Value

open Stencil.Decimal

/-- The least whole number that 128 bits with a sign hold. -/
def leastWide : Int := -Int.ofNat (twoTo 127)

/-- The greatest whole number that 128 bits with a sign hold. -/
def greatestWide : Int := Int.ofNat (twoTo 127) - 1

/-- Whether a whole number fits into 128 bits with a sign. -/
def fitsWide (n : Int) : Bool := leastWide ≤ n && n ≤ greatestWide

/-- Arithmetic on two numbers, whole or not; the whole operation may have no result. -/
def arithmetic (op : Operator) (whole : Int → Int → Option Int) (real : Float → Float → Float)
    (v w : Value) : Except Cause Value :=
  match numberPair? v w with
  | some (.ints a b) =>
    if fitsWide a && fitsWide b then
      match (whole a b).filter fitsWide with
      | some n => .ok (int n)
      | none => .error (.uncomputable op.spelling (printed v) (printed w))
    else .error (.unsupportedOperands op.spelling v.kind w.kind)
  | some (.floats a b) => .ok (float (real a b))
  | none => .error (.unsupportedOperands op.spelling v.kind w.kind)

/-- The value as a count. -/
def asCount? (v : Value) : Option Nat :=
  match asInt? v with
  | some n => if 0 ≤ n && n < Int.ofNat (twoTo 64) then some n.toNat else none
  | none => none

/-- A text repeated. -/
def repeated (s : String) (n : Nat) : String := String.join (List.replicate n s)

/-- The sum of two values: numbers are added, texts and lists are put together. -/
def add : Value → Value → Except Cause Value
  | list xs, list ys => .ok (list (xs ++ ys))
  | text s _, text t _ => .ok (ofString (s ++ t))
  | v, w => arithmetic .add (fun a b => some (a + b)) (· + ·) v w

/-- The product of two values: a text or a list is repeated by a count on either side. -/
def multiply (v w : Value) : Except Cause Value :=
  let repeatText (s : String) (n : Value) : Except Cause Value :=
    match asCount? n with
    | some n => .ok (ofString (repeated s n))
    | none => .error (.notMultiplier .text)
  let repeatList (xs : List Value) (n : Value) : Except Cause Value :=
    match asCount? n with
    | some n => .ok (list (List.replicate n xs).flatten)
    | none => .error (.notMultiplier .list)
  match v, w with
  | text s _, w => repeatText s w
  | v, text s _ => repeatText s v
  | list xs, w => repeatList xs w
  | v, list xs => repeatList xs v
  | v, w => arithmetic .multiply (fun a b => some (a * b)) (· * ·) v w

/-- The quotient as a float. -/
def divide (v w : Value) : Except Cause Value :=
  match asFloat? v, asFloat? w with
  | some a, some b => .ok (float (a / b))
  | _, _ => .error (.unsupportedOperands Operator.divide.spelling v.kind w.kind)

/-- A power with a whole exponent that fits into 32 bits. -/
def wholePower (a b : Int) : Option Int :=
  if 0 ≤ b && b < Int.ofNat (twoTo 32) then
    if a.natAbs ≤ 1 then some (Int.pow a (b.toNat % 2 + if b == 0 then 0 else 2))
    else if b ≤ 127 then some (Int.pow a b.toNat)
    else none
  else none

/-- Whether a text occurs in another. -/
def occursIn (part : List Char) : List Char → Bool
  | [] => part.isEmpty
  | c :: rest => part.isPrefixOf (c :: rest) || occursIn part rest

/-- Whether a value contains another, both as they are seen: a text its parts, a map its keys, a list its
items. -/
def contains (container v : Value) : Except Cause Value :=
  match container with
  | undefined _ => .ok (bool false)
  | text s _ => .ok (bool (occursIn (printed v).toList s.toList))
  | list items => .ok (bool (items.any (same · v)))
  | map entries => .ok (bool (valueAt? [] v entries).isSome)
  | keywords entries => .ok (bool (entries.any fun e => same (ofString e.1) v))
  | builtin _ => .ok (bool false)
  | routine _ => .ok (bool false)
  | loop _ => .ok (bool false)
  | _ => .error .notContainer

/-- The value an operator computes. Sums and products take lists apart and keep what is in them; other
operators go by what is seen. -/
def operate (objects : List Object) (op : Operator) (v w : Value) : Except Cause Value :=
  let left := v.seen objects
  let right := w.seen objects
  match op with
  | .add => add v w
  | .subtract => arithmetic .subtract (fun a b => some (a - b)) (· - ·) v w
  | .multiply => multiply v w
  | .divide => divide v w
  | .floorDivide =>
    arithmetic .floorDivide (fun a b => if b == 0 then none else some (a / b)) euclideanQuotient v w
  | .modulo =>
    arithmetic .modulo (fun a b => if b == 0 then none else some (a % b)) remainder v w
  | .power => arithmetic .power wholePower Float.pow v w
  | .concat => .ok (ofString (printed left ++ printed right))
  | .equal => .ok (bool (same left right))
  | .unequal => .ok (bool (!same left right))
  | .less => .ok (bool (order left right == .lt))
  | .lessEqual => .ok (bool (order left right != .gt))
  | .greater => .ok (bool (order left right == .gt))
  | .greaterEqual => .ok (bool (order left right != .lt))
  | .within => contains right left

/-- The negated number. -/
def negate : Value → Except Cause Value
  | int n =>
    if fitsWide n && fitsWide (-n) then .ok (int (-n)) else .error .cannotNegate
  | float x => .ok (float (-x))
  | _ => .error .cannotNegate

end Value

end Stencil
