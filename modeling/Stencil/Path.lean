/-!
# Path texts

Paths are texts whose parts are separated by slashes. Joining does not tidy a path up, so one place can
be spelled in many ways; `components` is what the spellings have in common: repeated and trailing
slashes and inner dots do not count.
-/

namespace Stencil.Path

/-- The parts of a path that count. -/
inductive Component where
  /-- The root of an absolute path. -/
  | root
  /-- A dot that a relative path starts with. -/
  | here
  /-- The directory above. -/
  | up
  | name (s : String)
  deriving DecidableEq, Repr

/-- Whether a path starts at the root. -/
def isAbsolute (path : String) : Bool :=
  match path.toList with
  | '/' :: _ => true
  | _ => false

/-- The pieces between the separators of a text. -/
def pieces (separator : Char) : List Char → List (List Char)
  | [] => [[]]
  | c :: rest =>
    if c == separator then [] :: pieces separator rest
    else
      match pieces separator rest with
      | [] => [[c]]
      | p :: ps => (c :: p) :: ps

/-- The pieces of a path between its slashes. -/
def segments (path : String) : List String := (pieces '/' path.toList).map String.ofList

/-- The component that a piece stands for inside a path, if it counts. -/
def Component.ofSegment? (s : String) : Option Component :=
  if s == "" || s == "." then none
  else if s == ".." then some .up
  else some (.name s)

/-- The components of a path. -/
def components (path : String) : List Component :=
  let start : List Component :=
    if isAbsolute path then [.root]
    else if (segments path).head? == some "." then [.here]
    else []
  start ++ (segments path).filterMap Component.ofSegment?

/-- A path below another; an absolute right side stands for itself. -/
def join (left right : String) : String :=
  if isAbsolute right then right
  else if left.isEmpty || left.toList.getLast? == some '/' then left ++ right
  else left ++ "/" ++ right

/-- The directory that holds the file of a name, as a walk from a directory above comes to it. -/
def holder (root name : String) : String := (segments name).dropLast.foldl join root

/-- Whether a relative path stays below the place it starts from. -/
def isContained (path : String) : Bool :=
  !path.isEmpty && (components path).all fun c =>
    match c with
    | .name _ => true
    | .here => true
    | _ => false

/-- Whether two paths are spellings of the same components. -/
def same (a b : String) : Bool := components a == components b

end Stencil.Path
