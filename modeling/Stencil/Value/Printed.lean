import Stencil.Value.Basic
import Stencil.Decimal.Shortest
import Stencil.Text.Quoted

/-!
# Values in print

A value on its own is printed plainly: a text as it is, nothing for an undefined value. Inside a list or
a map texts are quoted, so that the parts can be told apart. What is printed is a value as it is seen; a
handle has no print of its own.
-/

namespace Stencil.Value

open Stencil.Text Stencil.Decimal

/-- Texts joined by a comma and a blank. -/
def commaSeparated : List String → String
  | [] => ""
  | [s] => s
  | s :: rest => s ++ ", " ++ commaSeparated rest

mutual

/-- The form of a value inside a list or a map. -/
def inside : Value → String
  | undefined _ => "undefined"
  | null => "None"
  | bool b => if b then "True" else "False"
  | int n => toString n
  | float x => floatText x
  | text s _ => quote s
  | list items => "[" ++ commaSeparated (insideAll items) ++ "]"
  | map entries => "\x7b" ++ commaSeparated (insideEntries entries) ++ "\x7d"
  | keywords entries => "\x7b" ++ commaSeparated (insideKeywords entries) ++ "\x7d"
  | builtin _ => "function"
  | routine r => "<macro " ++ r.name ++ ">"
  | loop l => "<loop " ++ toString l.index0 ++ "/" ++ toString l.length ++ ">"
  | object _ => "undefined"

/-- The forms of the items of a list. -/
def insideAll : List Value → List String
  | [] => []
  | v :: rest => inside v :: insideAll rest

/-- The forms of the entries of a map. -/
def insideEntries : List (Value × Value) → List String
  | [] => []
  | e :: rest => insideEntry e :: insideEntries rest

/-- The form of one entry of a map. -/
def insideEntry : Value × Value → String
  | (k, v) => inside k ++ ": " ++ inside v

/-- The forms of keyword arguments. -/
def insideKeywords : List (String × Value) → List String
  | [] => []
  | e :: rest => insideKeyword e :: insideKeywords rest

/-- The form of one keyword argument. -/
def insideKeyword : String × Value → String
  | (k, v) => quote k ++ ": " ++ inside v

end

/-- The printed form of a value on its own. -/
def printed : Value → String
  | undefined _ => ""
  | text s _ => s
  | v => inside v

end Stencil.Value
