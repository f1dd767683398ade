import Stencil.Grammar.Problem
import Stencil.Value.Basic
import Stencil.Text.Quoted

/-!
# Why an evaluation fails

Every way in which rendering a template can fail, with its wording and with the class it is reported
under. A cause is what went wrong at the place where evaluation stopped; a reason is what is seen of it
from outside. Inside an included template or inside the parent of a block the reason is wrapped: the
wrapper keeps what it wraps, but decides the class.
-/

namespace Stencil

open Stencil.Text Stencil.Grammar

/-- The classes that messages start with. -/
inductive FailureClass where
  | notFound
  | badTemplate
  | badEscape
  | undefinedValue
  | invalidOperation
  | cannotUnpack
  | inclusion
  | block
  | unknownFilter
  | unknownTest
  | unknownFunction
  | unknownMethod
  | missingArgument
  | tooManyArguments
  deriving DecidableEq, Repr

/-- The words that a message of the class starts with. -/
def FailureClass.heading : FailureClass → String
  | .notFound => "template not found"
  | .badTemplate => "syntax error"
  | .badEscape => "bad string escape"
  | .undefinedValue => "undefined value"
  | .invalidOperation => "invalid operation"
  | .cannotUnpack => "cannot unpack"
  | .inclusion => "could not render include"
  | .block => "could not render block"
  | .unknownFilter => "unknown filter"
  | .unknownTest => "unknown test"
  | .unknownFunction => "unknown function"
  | .unknownMethod => "unknown method"
  | .missingArgument => "missing argument"
  | .tooManyArguments => "too many arguments"

/-- What goes wrong where an evaluation fails. -/
inductive Cause where
  /-- No source has a template that is needed. -/
  | missing (name : String)
  /-- None of the templates to include exists. -/
  | missingInclude (names : List String)
  /-- The body of a template is not well formed. -/
  | malformed (problem : Problem)
  /-- A source could not be read. -/
  | sourceFailed (name : String) (reason : String)
  /-- A value that nothing defines is used. -/
  | undefinedValue
  | unsupportedOperands (op : String) (left right : Kind)
  | uncomputable (op : String) (left right : String)
  | cannotNegate
  /-- A text or a list is multiplied with something other than a count. -/
  | notMultiplier (kind : Kind)
  | notIterable (kind : Kind)
  | notContainer
  | nameNotText
  | inheritanceCycle (name : String)
  | secondParent
  | superOutsideBlock
  | noParentBlock
  | requiredBlock (name : String)
  | superArguments
  | notCallable (kind : Kind)
  | objectNotCallable
  | routineGone
  | noLength (kind : Kind)
  | noFirst
  | noLast
  | notJoinable (kind : Kind)
  | notReversible (kind : Kind)
  | notListable
  | notPairs
  | noAbsolute
  | notInteger (kind : Kind)
  | badFloat
  | emptyFloat
  | argumentKind (kind : Kind) (wanted : String)
  | keywordsAsText
  | rangeTooLong
  | rangeStandsStill
  | tooDeep
  | notUnpackable
  | wrongLength (expected got : Nat)
  /-- A field is assigned of something other than a namespace. -/
  | notNamespace (kind : Kind)
  /-- A namespace is made from something without entries. -/
  | noEntries (kind : Kind)
  /-- A namespace is made from entries whose keys are not all texts. -/
  | keyNotText (kind : Kind)
  | notDictionary
  | unknownFilter (name : String)
  | unknownTest (name : String)
  | unknownFunction (name : String)
  | unknownMethod (kind : Kind) (name : String)
  | missingArgument
  | tooManyArguments
  | unknownKeyword (name : String)
  | repeatedArgument (name : String)
  deriving DecidableEq, Repr

/-- The class under which a cause is reported. -/
def Cause.failureClass : Cause → FailureClass
  | missing _ => .notFound
  | missingInclude _ => .notFound
  | malformed .badEscape => .badEscape
  | malformed _ => .badTemplate
  | undefinedValue => .undefinedValue
  | notUnpackable => .cannotUnpack
  | wrongLength _ _ => .cannotUnpack
  | unknownFilter _ => .unknownFilter
  | unknownTest _ => .unknownTest
  | unknownFunction _ => .unknownFunction
  | unknownMethod _ _ => .unknownMethod
  | missingArgument => .missingArgument
  | tooManyArguments => .tooManyArguments
  | unknownKeyword _ => .tooManyArguments
  | repeatedArgument _ => .tooManyArguments
  | _ => .invalidOperation

/-- Quoted texts joined by a comma and a blank. -/
def quotedList : List String → String
  | [] => ""
  | [s] => quote s
  | s :: rest => quote s ++ ", " ++ quotedList rest

/-- What a message says after its heading. -/
def Cause.detail : Cause → Option String
  | missing name => some ("template " ++ quote name ++ " does not exist")
  | missingInclude [name] => some ("tried to include non-existing template " ++ quote name)
  | missingInclude names =>
    some ("tried to include one of multiple templates, none of which existed ["
      ++ quotedList names ++ "]")
  | malformed p => p.detail
  | sourceFailed name reason => some ("failed to load template " ++ name ++ ": " ++ reason)
  | undefinedValue => none
  | unsupportedOperands op left right =>
    some ("tried to use " ++ op ++ " operator on unsupported types " ++ left.name ++ " and "
      ++ right.name)
  | uncomputable op left right => some ("unable to calculate " ++ left ++ " " ++ op ++ " " ++ right)
  | cannotNegate => none
  | notMultiplier .text => some "strings can only be multiplied with integers"
  | notMultiplier _ => some "sequences and iterables can only be multiplied with integers"
  | notIterable kind => some (kind.name ++ " is not iterable")
  | notContainer => some "cannot perform a containment check on this value"
  | nameNotText => some "template name was not a string"
  | inheritanceCycle name =>
    some ("cycle in template inheritance. " ++ quote name ++ " was referenced more than once")
  | secondParent => some "tried to extend a second time in a template"
  | superOutsideBlock => some "cannot super outside of block"
  | noParentBlock => some "no parent block exists"
  | requiredBlock name => some ("Required block '" ++ name ++ "' not found")
  | superArguments => some "super() takes no arguments"
  | notCallable kind => some ("value of type " ++ kind.name ++ " is not callable")
  | objectNotCallable => some "object is not callable"
  | routineGone => some "cannot call this macro. template state went away."
  | noLength kind => some ("cannot calculate length of value of type " ++ kind.name)
  | noFirst => some "cannot get first item from value"
  | noLast => some "cannot get last item from value"
  | notJoinable kind => some ("cannot join value of type " ++ kind.name)
  | notReversible kind => some ("cannot reverse values of type " ++ kind.name)
  | notListable => some "cannot convert value to list"
  | notPairs => some "cannot convert value into pairs"
  | noAbsolute => some "cannot get absolute value"
  | notInteger kind => some ("cannot convert " ++ kind.name ++ " to integer")
  | badFloat => some "invalid float literal"
  | emptyFloat => some "cannot parse float from empty string"
  | argumentKind kind wanted => some ("cannot convert " ++ kind.name ++ " to " ++ wanted)
  | keywordsAsText => some "cannot convert kwargs to string"
  | rangeTooLong => some "range has too many elements"
  | rangeStandsStill => some "cannot create range with step of 0"
  | tooDeep => some "recursion limit exceeded"
  | notUnpackable => some "value is not iterable"
  | wrongLength expected got =>
    some ("sequence of wrong length (expected " ++ toString expected ++ ", got " ++ toString got ++ ")")
  | notNamespace kind => some ("can only assign to namespaces, not " ++ kind.name)
  | noEntries kind => some ("expected object or keyword arguments, got " ++ kind.name)
  | keyNotText kind => some ("expected string key for namespace got " ++ kind.name)
  | notDictionary => none
  | unknownFilter name => some ("filter " ++ name ++ " is unknown")
  | unknownTest name => some ("test " ++ name ++ " is unknown")
  | unknownFunction name => some (name ++ " is unknown")
  | unknownMethod kind name => some (kind.name ++ " has no method named " ++ name)
  | missingArgument => none
  | tooManyArguments => none
  | unknownKeyword name => some ("unknown keyword argument `" ++ name ++ "`")
  | repeatedArgument name => some ("duplicate argument `" ++ name ++ "`")

/-- Why an evaluation fails, as it is seen from outside. -/
inductive Reason where
  | plain (c : Cause)
  /-- Evaluation nests more deeply than it is given room for. -/
  | exhausted
  /-- An included or imported template failed while it ran. -/
  | insideInclude (name : String) (inner : Reason)
  /-- The parent of a block failed while it ran. -/
  | insideSuper (inner : Reason)
  deriving DecidableEq, Repr

/-- The class under which a reason is reported. -/
def Reason.failureClass : Reason → FailureClass
  | plain c => c.failureClass
  | exhausted => .invalidOperation
  | insideInclude _ _ => .inclusion
  | insideSuper _ => .block

/-- What a message about a reason says after its heading. -/
def Reason.detail : Reason → Option String
  | plain c => c.detail
  | exhausted => some "evaluation nests too deeply"
  | insideInclude name _ => some ("error in " ++ quote name)
  | insideSuper _ => some "error in super block"

/-- A place in a template. -/
structure Site where
  template : String
  line : Nat
  deriving DecidableEq, Repr

/-- A failed evaluation: the reason, and where it is reported for. -/
structure Failure where
  reason : Reason
  site : Site
  deriving DecidableEq, Repr

/-- The failure as it is reported. -/
def Failure.message (f : Failure) : String :=
  f.reason.failureClass.heading
    ++ (match f.reason.detail with
      | some detail => ": " ++ detail
      | none => "")
    ++ " (in " ++ f.site.template ++ ":" ++ toString f.site.line ++ ")"

end Stencil
