import Stencil.Decimal.Reading
import Stencil.Decimal.Shortest
import Stencil.Text.Quoted
import Stencil.Yaml.Event

/-!
# What plain scalars mean

A scalar without quotes may be nothing, a truth value or a number; all other scalars are texts. Digits
with a leading zero are a text.
-/

namespace Stencil.Yaml

open Stencil.Text Stencil.Decimal

/-- What a scalar stands for. -/
inductive Reading where
  | nothing
  | bool (b : Bool)
  | int (n : Int)
  | float (x : Float)
  | text (s : String)

/-- The truth value that a word spells. -/
def readBool? (s : String) : Option Bool :=
  if s == "true" || s == "True" || s == "TRUE" then some true
  else if s == "false" || s == "False" || s == "FALSE" then some false
  else none

/-- Whether a text spells nothing. -/
def isNothing (s : String) : Bool := s == "null" || s == "Null" || s == "NULL" || s == "~"

/-- Whether a text is digits with a needless leading zero. -/
def isPadded (cs : List Char) : Bool :=
  let body := match cs with
    | '-' :: r => r
    | '+' :: r => r
    | r => r
  1 < body.length && body.head? == some '0' && body.all Char.isDigit

/-- The number that digits of a base stand for. -/
def readDigits? (base : Nat) (cs : List Char) : Option Nat :=
  if cs.isEmpty then none
  else cs.foldl (fun acc c =>
    match acc, hexValue? c with
    | some n, some d => if d < base then some (n * base + d) else none
    | _, _ => none) (some 0)

/-- The number that digits after their base stand for. -/
def readBased? (cs : List Char) : Option Nat :=
  match cs with
  | '0' :: 'x' :: r => readDigits? 16 r
  | '0' :: 'o' :: r => readDigits? 8 r
  | '0' :: 'b' :: r => readDigits? 2 r
  | _ => none

/-- The whole number that a text spells, within 128 bits. -/
def readWhole? (s : String) : Option Int :=
  let cs := s.toList
  match cs with
  | '-' :: r =>
    (((readBased? r).or (if isPadded cs then none else readDigits? 10 r)).map fun n =>
      -(Int.ofNat n)).filter (-Int.ofNat (twoTo 127) ≤ ·)
  | _ =>
    let r := match cs with
      | '+' :: r => r
      | r => r
    (((readBased? r).or (if isPadded cs then none else readDigits? 10 r)).map Int.ofNat).filter
      (· < Int.ofNat (twoTo 128))

/-- The float that a text spells. -/
def readReal? (s : String) : Option Float :=
  let cs := s.toList
  let body := match cs with
    | '+' :: r => r
    | r => r
  let word := String.ofList body
  if word == ".inf" || word == ".Inf" || word == ".INF" then some (1.0 / 0.0)
  else if s == "-.inf" || s == "-.Inf" || s == "-.INF" then some (-1.0 / 0.0)
  else if s == ".nan" || s == ".NaN" || s == ".NAN" then some (0.0 / 0.0)
  else if cs != body && (body.head? == some '+' || body.head? == some '-') then none
  else (readFloat? body).filter Float.isFinite

/-- What a plain scalar stands for. -/
def readPlainText (s : String) : Reading :=
  if s.isEmpty || isNothing s then .nothing
  else
    match readBool? s with
    | some b => .bool b
    | none =>
      match readWhole? s with
      | some n => .int n
      | none =>
        match (if isPadded s.toList then none else readReal? s) with
        | some x => .float x
        | none => .text s

/-- What a scalar is called in messages. -/
def Reading.words : Reading → String
  | .nothing => "unit value"
  | .bool b => "boolean \x60" ++ (if b then "true" else "false") ++ "\x60"
  | .int n =>
    "integer \x60" ++ toString n ++ "\x60"
      ++ (if Int.ofNat (twoTo 64) ≤ n then " as u128" else if n < -Int.ofNat (twoTo 63) then " as i128" else "")
  | .float x => "floating point \x60" ++ floatText x ++ "\x60"
  | .text s => "string " ++ quote s

end Stencil.Yaml
