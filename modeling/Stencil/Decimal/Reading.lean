/-!
# Reading decimals

Decimal texts as doubles: the double nearest to the number written, an infinity beyond the range.
-/

namespace Stencil.Decimal

/-- The double nearest to `coefficient * 10 ^ exponent`. Exponents far outside the range of doubles are
decided without computing the power. -/
def nearest (coefficient : Nat) (exponent : Int) : Float :=
  if coefficient == 0 then 0.0
  else
    let leading := exponent + Int.ofNat (Nat.toDigits 10 coefficient).length
    if 400 < leading then 1.0 / 0.0
    else if leading < -400 then 0.0
    else Float.ofScientific coefficient (decide (exponent < 0)) exponent.natAbs

/-- The value of a run of decimal digits. -/
def digitsValue (cs : List Char) : Nat :=
  cs.foldl (fun n c => 10 * n + (c.toNat - 48)) 0

/-- An unsigned decimal: digits, perhaps a point and more digits, perhaps an exponent. At least one digit
stands before the exponent. -/
def readUnsigned? (cs : List Char) : Option Float :=
  let whole := cs.takeWhile Char.isDigit
  let afterWhole := cs.dropWhile Char.isDigit
  let (fraction, rest) := match afterWhole with
    | '.' :: r => (r.takeWhile Char.isDigit, r.dropWhile Char.isDigit)
    | r => ([], r)
  let coefficient := digitsValue (whole ++ fraction)
  let shift := -(Int.ofNat fraction.length)
  if whole.isEmpty && fraction.isEmpty then none
  else match rest with
    | [] => some (nearest coefficient shift)
    | e :: r =>
      if e == 'e' || e == 'E' then
        let (negative, ds) := match r with
          | '-' :: t => (true, t)
          | '+' :: t => (false, t)
          | t => (false, t)
        if ds.isEmpty || !ds.all Char.isDigit then none
        else
          let n := Int.ofNat (digitsValue ds)
          some (nearest coefficient (shift + if negative then -n else n))
      else none

/-- A decimal with an optional sign, or a name of an infinity or of what is not a number. -/
def readFloat? (cs : List Char) : Option Float :=
  let (negative, body) := match cs with
    | '-' :: t => (true, t)
    | '+' :: t => (false, t)
    | t => (false, t)
  let word := String.ofList (body.map Char.toLower)
  let value :=
    if word == "inf" || word == "infinity" then some (1.0 / 0.0)
    else if word == "nan" then some (0.0 / 0.0)
    else readUnsigned? body
  value.map fun x => if negative then -x else x

/-- A whole number with an optional sign. -/
def readInt? (cs : List Char) : Option Int :=
  let (negative, body) := match cs with
    | '-' :: t => (true, t)
    | '+' :: t => (false, t)
    | t => (false, t)
  if body.isEmpty || !body.all Char.isDigit then none
  else
    let n := Int.ofNat (digitsValue body)
    some (if negative then -n else n)

end Stencil.Decimal
