import Stencil.Value.Access
import Stencil.Decimal.Shortest
import Stencil.Text.Quoted

/-!
# Models

The data that a page is rendered with: plain values by name. Numbers written with a fraction or an
exponent differ from whole numbers of the same size. The entries of objects and models are kept in the
order of their names, so that equality does not depend on the order in which they were given.
-/

namespace Stencil

/-- Plain data. -/
inductive Datum where
  | null
  | bool (b : Bool)
  | int (n : Int)
  | float (x : Float)
  | text (s : String)
  | list (items : List Datum)
  | object (fields : List (String × Datum))
  deriving Inhabited

namespace Datum

/-- An object from its fields. -/
def ofFields (fields : List (String × Datum)) : Datum := object (sortFields fields)

mutual

/-- Equality of data; whole numbers never equal floats. -/
def same : Datum → Datum → Bool
  | null, d => match d with
    | null => true
    | _ => false
  | bool a, d => match d with
    | bool b => a == b
    | _ => false
  | int a, d => match d with
    | int b => a == b
    | _ => false
  | float a, d => match d with
    | float b => a == b
    | _ => false
  | text s, d => match d with
    | text t => s == t
    | _ => false
  | list xs, d => match d with
    | list ys => sameItems xs ys
    | _ => false
  | object fs, d => match d with
    | object gs => sameFields fs gs
    | _ => false

/-- Equality of items one by one. -/
def sameItems : List Datum → List Datum → Bool
  | [], ys => ys.isEmpty
  | x :: xs, ys => match ys with
    | [] => false
    | y :: ys => x.same y && sameItems xs ys

/-- Equality of fields one by one. -/
def sameFields : List (String × Datum) → List (String × Datum) → Bool
  | [], gs => gs.isEmpty
  | f :: fs, gs => match gs with
    | [] => false
    | g :: gs => sameField f g && sameFields fs gs

/-- Equality of single fields. -/
def sameField : String × Datum → String × Datum → Bool
  | (n, d), g => n == g.1 && d.same g.2

end

mutual

/-- The value that templates see. -/
def toValue : Datum → Value
  | null => .null
  | bool b => .bool b
  | int n => .int n
  | float x => .float x
  | text s => .ofString s
  | list items => .list (toValues items)
  | object fields => .ofFields (toFields fields)

/-- The values of items. -/
def toValues : List Datum → List Value
  | [] => []
  | d :: rest => d.toValue :: toValues rest

/-- The values of fields. -/
def toFields : List (String × Datum) → List (String × Value)
  | [] => []
  | f :: rest => toField f :: toFields rest

/-- The value of a field. -/
def toField : String × Datum → String × Value
  | (n, d) => (n, d.toValue)

end

end Datum

/-- What a datum is called where an object is expected. -/
def Datum.words : Datum → String
  | .null => "null"
  | .bool b => "boolean \x60" ++ (if b then "true" else "false") ++ "\x60"
  | .int n => "integer \x60" ++ toString n ++ "\x60"
  | .float x => "floating point \x60" ++ Decimal.floatText x ++ "\x60"
  | .text s => "string " ++ Text.quote s
  | .list _ => "sequence"
  | .object _ => "map"

/-- Why a datum is not a model. -/
def Datum.notModelMessage (d : Datum) : String := "invalid type: " ++ d.words ++ ", expected a map"

/-- The values that a page is rendered with, in the order of their names. -/
structure Model where
  values : List (String × Datum)

namespace Model

/-- The model without values. -/
def empty : Model := ⟨[]⟩

/-- The model with a value set. -/
def insert (m : Model) (key : String) (d : Datum) : Model := ⟨insertField key d m.values⟩

/-- A model from values by name. -/
def ofFields (fields : List (String × Datum)) : Model := ⟨sortFields fields⟩

/-- The value of a name. -/
def get? (m : Model) (key : String) : Option Datum := m.values.lookup key

/-- The number of values. -/
def size (m : Model) : Nat := m.values.length

/-- Whether there are no values. -/
def isEmpty (m : Model) : Bool := m.values.isEmpty

/-- Equality of models. -/
def same (m n : Model) : Bool := Datum.sameFields m.values n.values

/-- The model as plain data. -/
def toDatum (m : Model) : Datum := .object m.values

/-- The variables that templates see. -/
def fields (m : Model) : List (String × Value) := Datum.toFields m.values

end Model

end Stencil
