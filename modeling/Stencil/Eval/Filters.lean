import Stencil.Value.Access
import Stencil.Value.Arithmetic
import Stencil.Text.Letters
import Stencil.Text.Markup
import Stencil.Decimal.Reading

/-!
# Filters, tests, ranges, namespaces and maps

The operations that templates call by name and that compute a value from values alone. Arguments are
given in order; keyword arguments, if any, are one last argument. An operation that wants a text takes
any value in its printed form, except keyword arguments. Handles are looked through as far as an
operation needs: all the way to print a value, to its face to take it apart.
-/

namespace Stencil.Eval

open Stencil.Value Stencil.Text Stencil.Decimal

/-- The printed form of an argument that has to be given. -/
def textArgument (objects : List Object) (args : List Value) (i : Nat) : Except Cause String :=
  match args[i]? with
  | none => .error .missingArgument
  | some (.keywords _) => .error .keywordsAsText
  | some v => .ok (printed (v.seen objects))

/-- An argument that may be left out, undefined or nothing. -/
def optionalArgument (args : List Value) (i : Nat) : Option Value :=
  match args[i]? with
  | some (.undefined _) => none
  | some .null => none
  | v => v

/-- Checks that there are no arguments beyond a number. -/
def atMost (n : Nat) (args : List Value) : Except Cause Unit :=
  if args.length ≤ n then .ok () else .error .tooManyArguments

/-- A text with every occurrence of a part replaced. `skip` characters are still part of the occurrence
found last. An empty part occurs before every character and at the end. -/
def replaceFrom (part new : List Char) : Nat → List Char → List Char
  | _, [] => if part.isEmpty then new else []
  | skip, c :: rest =>
    if part.isEmpty then new ++ c :: replaceFrom part new 0 rest
    else
      match skip with
      | n + 1 => replaceFrom part new n rest
      | 0 =>
        if part.isPrefixOf (c :: rest) then new ++ replaceFrom part new (part.length - 1) rest
        else c :: replaceFrom part new 0 rest

/-- A text with every occurrence of a part replaced. -/
def replaceAll (s part new : String) : String :=
  String.ofList (replaceFrom part.toList new.toList 0 s.toList)

/-- Texts joined; the separator stands before every text but those that start the result. -/
def joinTexts (separator : String) (texts : List String) : String :=
  texts.foldl (fun acc s => (if acc.isEmpty then acc else acc ++ separator) ++ s) ""

/-- A whole number brought into 128 bits. -/
def clampWide (n : Int) : Int := max leastWide (min n greatestWide)

/-- The whole part of a float within 128 bits. -/
def toWide (x : Float) : Int :=
  match parts x with
  | .nan => 0
  | .infinite negative => if negative then leastWide else greatestWide
  | .finite _ _ _ _ => clampWide (wholePart x)

/-- A value as a whole number: texts are read, fractions dropped. -/
def toWhole : Value → Except Cause Value
  | .undefined _ => .ok (.int 0)
  | .null => .ok (.int 0)
  | .bool b => .ok (.int (if b then 1 else 0))
  | .int n => .ok (.int n)
  | .float x => .ok (.int (toWide x))
  | .text s _ =>
    match (readInt? s.toList).filter fitsWide with
    | some n => .ok (.int n)
    | none =>
      match readFloat? s.toList with
      | some x => .ok (.int (toWide x))
      | none => .error (if s.isEmpty then .emptyFloat else .badFloat)
  | v => .error (.notInteger v.kind)

/-- The reversed value, of a face. -/
def reversed : Value → Except Cause Value
  | .undefined quiet => .ok (.undefined quiet)
  | .null => .ok .null
  | .text s _ => .ok (ofString (String.ofList s.toList.reverse))
  | v =>
    match v.items? with
    | some items => .ok (.list items.reverse)
    | none => .error (.notReversible v.kind)

/-- The entries of a map, of a face, as lists of key and value. -/
def toPairs : Value → Except Cause Value
  | .map entries => .ok (.list (entries.map fun e => .list [e.1, e.2]))
  | .keywords entries => .ok (.list (entries.map fun e => .list [ofString e.1, e.2]))
  | _ => .error .notPairs

/-- The absolute value of a number. -/
def absolute : Value → Except Cause Value
  | .int n => .ok (.int n.natAbs)
  | .float x => .ok (.float x.abs)
  | _ => .error .noAbsolute

/-- The first item of a face, undefined when it has none. -/
def firstItem : Value → Except Cause Value
  | .undefined _ => .error .noFirst
  | .null => .error .noFirst
  | v =>
    match v.items? with
    | some items => .ok (items.head?.getD (.undefined false))
    | none => .error .noFirst

/-- The last item of a text or a list, undefined when it has none. -/
def lastItem : Value → Except Cause Value
  | .text s _ => .ok ((s.toList.getLast?.map ofChar).getD (.undefined false))
  | .list items => .ok (items.getLast?.getD (.undefined false))
  | _ => .error .noLast

/-- The printed items of a value, as it is seen, joined. -/
def joined (v : Value) (separator : String) : Except Cause Value :=
  match v with
  | .undefined _ => .ok (ofString "")
  | .null => .ok (ofString "")
  | v =>
    match v.items? with
    | some items => .ok (ofString (joinTexts separator (items.map printed)))
    | none => .error (.notJoinable v.kind)

/-- The value, or a replacement when the value is undefined or, if `lax`, counts as false. -/
def orDefault (objects : List Object) (v : Value) (args : List Value) : Except Cause Value := do
  let lax ← match optionalArgument args 1 with
    | none => .ok false
    | some (.bool b) => .ok b
    | some w => .error (.argumentKind w.kind "bool")
  let other := (optionalArgument args 0).getD (ofString "")
  .ok (if v.isUndefined || (lax && !(v.face objects).isTrue) then other else v)

/-- The filters. -/
inductive Filter where
  | upper
  | lower
  | replace
  | length
  | join
  | first
  | last
  | default
  | trust
  | escape
  | list
  | string
  | reverse
  | pairs
  | magnitude
  | whole
  deriving DecidableEq, Repr

/-- The filter of a name. -/
def Filter.ofName? (name : String) : Option Filter :=
  [("upper", upper), ("lower", lower), ("replace", replace), ("length", length), ("count", length),
    ("join", join), ("first", first), ("last", last), ("default", default), ("d", default),
    ("safe", trust), ("escape", escape), ("e", escape), ("list", list), ("string", string),
    ("reverse", reverse), ("items", pairs), ("abs", magnitude), ("int", whole)].lookup name

/-- The values, counted from the filtered one, that a strict evaluation wants to be defined. -/
def Filter.careful : Filter → List Nat
  | .upper | .lower | .trust => [0]
  | .replace => [0, 1, 2]
  | .join => [1]
  | .default => [1, 2]
  | _ => []

/-- What a filter makes of a value. -/
def Filter.apply (objects : List Object) (filter : Filter) (v : Value) (args : List Value) :
    Except Cause Value :=
  match filter with
  | .upper => do
    let s ← textArgument objects [v] 0
    atMost 0 args
    .ok (ofString (toCapitals s))
  | .lower => do
    let s ← textArgument objects [v] 0
    atMost 0 args
    .ok (ofString (toSmall s))
  | .replace => do
    let s ← textArgument objects [v] 0
    let part ← textArgument objects args 0
    let new ← textArgument objects args 1
    atMost 2 args
    .ok (ofString (replaceAll s part new))
  | .length => do
    atMost 0 args
    match (v.face objects).length? with
    | some n => .ok (.int n)
    | none => .error (.noLength v.kind)
  | .join => do
    let separator ← match optionalArgument args 0 with
      | none => .ok ""
      | some w => textArgument objects [w] 0
    atMost 1 args
    joined (v.seen objects) separator
  | .first => do
    atMost 0 args
    firstItem (v.face objects)
  | .last => do
    atMost 0 args
    lastItem (v.face objects)
  | .default => do
    atMost 2 args
    orDefault objects v args
  | .trust => do
    let s ← textArgument objects [v] 0
    atMost 0 args
    .ok (.text s true)
  | .escape => do
    atMost 0 args
    match v with
    | .text s true => .ok (.text s true)
    | v => .ok (.text (Text.escape (printed (v.seen objects))) true)
  | .list => do
    atMost 0 args
    match (v.face objects).items? with
    | some items => .ok (.list items)
    | none => .error .notListable
  | .string => do
    atMost 0 args
    match v with
    | .text s safe => .ok (.text s safe)
    | v => .ok (ofString (printed (v.seen objects)))
  | .reverse => do
    atMost 0 args
    reversed (v.face objects)
  | .pairs => do
    atMost 0 args
    toPairs (v.face objects)
  | .magnitude => do
    atMost 0 args
    absolute v
  | .whole => do
    atMost 0 args
    toWhole v

/-- The tests. -/
inductive Test where
  | defined
  | undefined
  | null
  | odd
  | even
  | number
  | text
  | list
  | map
  | yes
  | no
  deriving DecidableEq, Repr

/-- The test of a name. -/
def Test.ofName? (name : String) : Option Test :=
  [("defined", defined), ("undefined", undefined), ("none", null), ("odd", odd), ("even", even),
    ("number", number), ("string", text), ("sequence", list), ("mapping", map), ("true", yes),
    ("false", no)].lookup name

/-- Whether a value passes a test. -/
def Test.holds (test : Test) (v : Value) : Bool :=
  match test with
  | .defined => !v.isUndefined
  | .undefined => v.isUndefined
  | .null => v.kind == .null
  | .odd => (asInt? v).any (· % 2 != 0)
  | .even => (asInt? v).any (· % 2 == 0)
  | .number => v.kind == .number
  | .text => v.kind == .text
  | .list => v.kind == .list
  | .map => v.kind == .map
  | .yes => match v with
    | .bool b => b
    | _ => false
  | .no => match v with
    | .bool b => !b
    | _ => false

/-- A whole number among the arguments of a range. -/
def rangeBound (v : Value) : Except Cause Int :=
  match asInt? v with
  | some n => .ok n
  | none => .error (.argumentKind v.kind "isize")

/-- The greatest number of items of a range. -/
def rangeLimit : Nat := 100000

/-- How many numbers a range from `low` to before `high` has with a step. -/
def rangeLength (low high step : Int) : Nat :=
  if 0 < step then ((high - low + step - 1) / step).toNat
  else ((low - high - step - 1) / (-step)).toNat

/-- The list of numbers that a range call gives. -/
def range (args : List Value) : Except Cause Value := do
  let first ← match args[0]? with
    | none => .error .missingArgument
    | some v => rangeBound v
  let second ← match optionalArgument args 1 with
    | none => .ok none
    | some v => some <$> rangeBound v
  let step ← match optionalArgument args 2 with
    | none => .ok 1
    | some v => rangeBound v
  atMost 3 args
  let (low, high) := match second with
    | some high => (first, high)
    | none => (0, first)
  if step == 0 then .error .rangeStandsStill
  else
    let n := rangeLength low high step
    if rangeLimit < n then .error .rangeTooLong
    else .ok (.list ((List.range n).map fun i : Nat => .int (low + step * Int.ofNat i)))

/-- The text that is the key of an entry. -/
def textKey (e : Value × Value) : Except Cause (String × Value) :=
  match e.1 with
  | .text name _ => .ok (name, e.2)
  | k => .error (.keyNotText k.kind)

/-- The face of an argument that may be left out. -/
def optionalFace (objects : List Object) (args : List Value) (i : Nat) : Option Value :=
  (optionalArgument args i).map (·.face objects)

/-- The fields that a namespace call gives: the entries of its argument, if it has one. -/
def spaceFields (objects : List Object) (args : List Value) : Except Cause (List (String × Value)) := do
  atMost 1 args
  let entries ← match optionalFace objects args 0 with
    | none => .ok []
    | some (.map entries) => entries.mapM textKey
    | some (.keywords entries) => .ok entries
    | some (.loop _) => .ok []
    | some (.routine _) => .ok []
    | some v => .error (.noEntries v.kind)
  .ok (sortFields entries)

/-- The map that a call gives: the entries of its argument, if it has one, and then its keyword
arguments. -/
def dictionary (objects : List Object) (args : List Value) (keywords : List (String × Value)) :
    Except Cause Value := do
  atMost 1 args
  let entries ← match optionalFace objects args 0 with
    | none => .ok []
    | some (.map entries) => .ok entries
    | some (.loop _) => .ok []
    | some (.routine _) => .ok []
    | some _ => .error .notDictionary
  .ok (ofEntries objects (entries ++ keywords.map fun e => (ofString e.1, e.2)))

end Stencil.Eval
