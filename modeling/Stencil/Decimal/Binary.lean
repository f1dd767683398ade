import Stencil.Decimal.Power

/-!
# Binary floating-point numbers as exact numbers

A finite double is a whole number times a power of two. Taking it apart makes rounding, remainders and
decimal printing questions about natural numbers.
-/

namespace Stencil.Decimal

/-- What a double stands for. -/
inductive Parts where
  /-- Not a number. -/
  | nan
  /-- An infinity. -/
  | infinite (negative : Bool)
  /-- The number `mantissa * 2 ^ exponent`, negated when `negative`. `lowest` says that the mantissa is
  the least of its binade, so that the next smaller double is only half a step away. -/
  | finite (negative : Bool) (mantissa : Nat) (exponent : Int) (lowest : Bool)
  deriving DecidableEq, Repr

/-- The double taken apart. -/
def parts (x : Float) : Parts :=
  let bits := x.toBits.toNat
  let negative := bits / twoTo 63 == 1
  let scale := bits / twoTo 52 % twoTo 11
  let fraction := bits % twoTo 52
  if scale == 2047 then if fraction == 0 then .infinite negative else .nan
  else if scale == 0 then .finite negative fraction (-1074) false
  else .finite negative (twoTo 52 + fraction) (Int.ofNat scale - 1075) (fraction == 0 && 1 < scale)

/-- A number by which doubles are put in order: the negative ones, the negative zero, the positive zero
and the positive ones, below all of them what is no number. -/
def rank (x : Float) : Int :=
  let bits := x.toBits.toNat
  match parts x with
  | .nan => -Int.ofNat (twoTo 63)
  | _ =>
    if bits < twoTo 63 then Int.ofNat bits
    else Int.ofNat (twoTo 63) - 1 - Int.ofNat bits

/-- The number without its fraction, toward zero; zero when there is no such number. -/
def wholePart (x : Float) : Int :=
  match parts x with
  | .finite negative m e _ =>
    let n := if 0 ≤ e then m * twoTo e.toNat else m / twoTo (-e).toNat
    if negative then -(Int.ofNat n) else Int.ofNat n
  | _ => 0

/-- The whole number that the double equals, if there is one. -/
def toInt? (x : Float) : Option Int :=
  match parts x with
  | .finite _ _ _ _ => if Float.ofInt (wholePart x) == x then some (wholePart x) else none
  | _ => none

/-- The remainder of the division truncated toward zero; it has the sign of the dividend. -/
def remainder (x y : Float) : Float :=
  match parts x, parts y with
  | .finite neg m e _, .finite _ n f _ =>
    if n == 0 then 0.0 / 0.0
    else
      let low := min e f
      let r := (m * twoTo (e - low).toNat) % (n * twoTo (f - low).toNat)
      let v := (Float.ofNat r).scaleB low
      if neg then -v else v
  | .finite _ _ _ _, .infinite _ => x
  | _, _ => 0.0 / 0.0

/-- The whole quotient that leaves a remainder which is never negative. -/
def euclideanQuotient (x y : Float) : Float :=
  let q := x / y
  let t := if q < 0.0 then q.ceil else q.floor
  if remainder x y < 0.0 then if 0.0 < y then t - 1.0 else t + 1.0 else t

end Stencil.Decimal
