/-!
# What can be wrong with a template's text

The causes for which a template body is refused, with their wording.
-/

namespace Stencil.Grammar

/-- Why a template body is refused. -/
inductive Problem where
  /-- Something else stands where a certain thing, if named, had to come. -/
  | unexpected (found : String) (expected : Option String)
  /-- A tag starts with a word that names no statement. -/
  | unknownStatement (word : String)
  /-- A tag starts with something that is no word. -/
  | notStatement (found : String)
  /-- A block name is used twice. -/
  | repeatedBlock (name : String)
  /-- The end of a block carries another block's name. -/
  | mismatchedBlock (found expected : String)
  /-- A block stands inside a routine. -/
  | blockInRoutine
  /-- A name that has a fixed meaning is assigned to. -/
  | reservedName (name : String)
  /-- A positional argument follows a keyword argument. -/
  | positionalAfterKeyword
  /-- Tags or expressions are nested too deeply. -/
  | tooDeep
  /-- A number is written in a way that has no value. -/
  | badNumber (detail : String)
  /-- A text holds an escape that stands for nothing. -/
  | badEscape
  deriving DecidableEq, Repr

/-- What is said about the cause after its heading; a bad escape is a heading of its own. -/
def Problem.detail : Problem → Option String
  | .unexpected found none => some ("unexpected " ++ found)
  | .unexpected found (some expected) => some ("unexpected " ++ found ++ ", expected " ++ expected)
  | .unknownStatement word => some ("unknown statement " ++ word)
  | .notStatement found => some ("unknown " ++ found ++ ", expected statement")
  | .repeatedBlock name => some ("block '" ++ name ++ "' defined twice")
  | .mismatchedBlock found expected =>
    some ("mismatching name on block. Got `" ++ found ++ "`, expected `" ++ expected ++ "`")
  | .blockInRoutine => some "block tags in macros are not allowed"
  | .reservedName name => some ("cannot assign to reserved variable name " ++ name)
  | .positionalAfterKeyword => some "non-keyword arg after keyword arg"
  | .tooDeep => some "template exceeds maximum recursion limits"
  | .badNumber detail => some detail
  | .badEscape => none

end Stencil.Grammar
