import Stencil.Failure

/-!
# Errors that callers see

What resolving, compiling and rendering a template can end with, and what reading the server's
properties can end with, with their texts. A failed evaluation is classified by what is seen of its
reason from outside.
-/

namespace Stencil

/-- Why server properties cannot be read. -/
inductive PropertiesError where
  /-- A setting has a value that it cannot have. -/
  | invalid (key message : String)
  | io (message : String)
  | yaml (message : String)
  deriving DecidableEq, Repr

/-- The error in words. -/
def PropertiesError.message : PropertiesError → String
  | invalid key message => "Invalid configuration value for " ++ key ++ ": " ++ message
  | io message => "IO error: " ++ message
  | yaml message => "YAML parsing error: " ++ message

/-- Why a template cannot be resolved or rendered. -/
inductive TemplateError where
  | notFound (message : String)
  /-- A body is not well formed. -/
  | malformed (template message : String)
  /-- A strict engine met an undefined value. -/
  | strictVariable (template message : String)
  | render (template message : String)
  | io (message : String)
  | properties (error : PropertiesError)
  deriving DecidableEq, Repr

namespace TemplateError

/-- The error in words. -/
def message : TemplateError → String
  | notFound message => "Template not found: " ++ message
  | malformed template message => "Template " ++ template ++ " failed to compile: " ++ message
  | strictVariable template message => "Undefined variable in template " ++ template ++ ": " ++ message
  | render template message => "Template rendering failed for " ++ template ++ ": " ++ message
  | io message => "IO error: " ++ message
  | properties error => "Core error: " ++ error.message

/-- Whether a missing template is the reason. -/
def isNotFound : TemplateError → Bool
  | notFound _ => true
  | _ => false

/-- The error for a failed evaluation of a template. -/
def ofFailure (template : String) (strict : Bool) (f : Failure) : TemplateError :=
  match f.reason.failureClass with
  | .notFound => notFound f.message
  | .badTemplate => malformed template f.message
  | .undefinedValue => if strict then strictVariable template f.message else render template f.message
  | _ => render template f.message

end TemplateError

end Stencil
