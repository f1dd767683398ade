import Stencil.Decimal.Binary

/-!
# The shortest decimal that reads back

Every double is printed with the fewest decimal digits that read back as the same double, and among
those with the ones nearest to it. The search tries one digit, two digits and so on; on each decimal
grid only the two neighbours of the number can lie in the interval of reals that round to it, so
testing these two in exact arithmetic is enough.
-/

namespace Stencil.Decimal

/-- The decimal number `coefficient * 10 ^ exponent`. -/
structure Scientific where
  coefficient : Nat
  exponent : Int
  deriving DecidableEq, Repr

/-- Whether `c * 10 ^ k` is at most `b * 2 ^ q`. -/
def decimalLe (c : Nat) (k : Int) (b : Nat) (q : Int) : Bool :=
  c * tenTo k.toNat * twoTo (-q).toNat ≤ b * twoTo q.toNat * tenTo (-k).toNat

/-- Whether `b * 2 ^ q` is at most `c * 10 ^ k`. -/
def binaryLe (b : Nat) (q : Int) (c : Nat) (k : Int) : Bool :=
  b * twoTo q.toNat * tenTo (-k).toNat ≤ c * tenTo k.toNat * twoTo (-q).toNat

/-- Whether the decimal lies among the reals that round to `m * 2 ^ q`; the ends belong to the interval
when the mantissa is even. -/
def readsBack (m : Nat) (q : Int) (lowest : Bool) (c : Nat) (k : Int) : Bool :=
  let low := if lowest then 4 * m - 1 else 4 * m - 2
  let high := 4 * m + 2
  if m % 2 == 0 then binaryLe low (q - 2) c k && decimalLe c k high (q - 2)
  else !decimalLe c k low (q - 2) && !binaryLe high (q - 2) c k

/-- The exponent of the leading decimal digit of `m * 2 ^ q`, for a positive `m`. -/
def leadingExponent (m : Nat) (q : Int) : Int :=
  let scaled := m * twoTo q.toNat * tenTo 330 / twoTo (-q).toNat
  Int.ofNat (Nat.toDigits 10 scaled).length - 331

/-- The nearest decimal with `count` digits that reads back, if one does. -/
def withDigits (m : Nat) (q : Int) (lowest : Bool) (count : Nat) : Option Scientific :=
  let k := leadingExponent m q - Int.ofNat count + 1
  let scaled := m * twoTo q.toNat * tenTo (-k).toNat
  let unit := twoTo (-q).toNat * tenTo k.toNat
  let c := scaled / unit
  let below := readsBack m q lowest c k
  let above := readsBack m q lowest (c + 1) k
  let rest := 2 * (scaled % unit)
  if below && above then
    some ⟨if rest < unit || (rest == unit && c % 2 == 0) then c else c + 1, k⟩
  else if below then some ⟨c, k⟩
  else if above then some ⟨c + 1, k⟩
  else none

/-- The shortest decimal that reads back as `m * 2 ^ q`; seventeen digits always do. -/
def shortest (m : Nat) (q : Int) (lowest : Bool) : Scientific :=
  if m == 0 then ⟨0, 0⟩
  else ((List.range 17).findSome? fun i => withDigits m q lowest (i + 1)).getD ⟨0, 0⟩

/-- A decimal written out in full, with at least one digit on each side of the point. -/
def Scientific.positional (d : Scientific) : String :=
  let digits := Nat.toDigits 10 d.coefficient
  if 0 ≤ d.exponent then
    String.ofList (if d.coefficient == 0 then ['0'] else digits ++ List.replicate d.exponent.toNat '0')
      ++ ".0"
  else
    let places := (-d.exponent).toNat
    let padded := List.replicate (places + 1 - digits.length) '0' ++ digits
    let whole := padded.take (padded.length - places)
    let fraction := (padded.drop (padded.length - places)).reverse.dropWhile (· == '0')
    String.ofList whole ++ "." ++ (if fraction.isEmpty then "0" else String.ofList fraction.reverse)

/-- The text of a double: its shortest decimal in full, or the name of what is not a number. -/
def floatText (x : Float) : String :=
  match parts x with
  | .nan => "NaN"
  | .infinite negative => if negative then "-inf" else "inf"
  | .finite negative m q lowest =>
    (if negative then "-" else "") ++ (shortest m q lowest).positional

end Stencil.Decimal
