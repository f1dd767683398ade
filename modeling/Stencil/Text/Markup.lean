/-!
# Escaping for markup

Templates whose name ends in a markup extension print values with the characters that mean something
in markup written as references. Which templates those are is decided by the name alone.
-/

namespace Stencil.Text

/-- How printed values are treated. -/
inductive Escaping where
  /-- Values are printed as they are. -/
  | plain
  /-- Values are printed with markup characters as references. -/
  | markup
  deriving DecidableEq, Repr, Inhabited

/-- One character as it stands in escaped text. -/
def escapeChar (c : Char) : List Char :=
  if c == '<' then ['&', 'l', 't', ';']
  else if c == '>' then ['&', 'g', 't', ';']
  else if c == '&' then ['&', 'a', 'm', 'p', ';']
  else if c == '\x22' then ['&', 'q', 'u', 'o', 't', ';']
  else if c == '\x27' then ['&', '#', 'x', '2', '7', ';']
  else if c == '/' then ['&', '#', 'x', '2', 'f', ';']
  else [c]

/-- The text with markup characters written as references. -/
def escape (s : String) : String := String.ofList (s.toList.flatMap escapeChar)

/-- The name without one of the endings that mark a file as a template. -/
def withoutTemplateEnding (name : List Char) : List Char :=
  let back := name.reverse
  let cut (ending : String) : Option (List Char) :=
    let e := ending.toList.reverse
    if e.isPrefixOf back then some (back.drop e.length) else none
  match cut ".j2" with
  | some r => r.reverse
  | none =>
    match cut ".jinja2" with
    | some r => r.reverse
    | none =>
      match cut ".jinja" with
      | some r => r.reverse
      | none => name

/-- What follows the last full stop of a name, or all of it. -/
def extension (name : List Char) : List Char :=
  (name.reverse.takeWhile (· != '.')).reverse

/-- The treatment that a template's name asks for. -/
def Escaping.ofName (name : String) : Escaping :=
  let ext := String.ofList (extension (withoutTemplateEnding name.toList))
  if ext == "html" || ext == "htm" || ext == "xml" then .markup else .plain

end Stencil.Text
