import Stencil.Path

/-!
# File trees

Files, directories and symbolic links below one root, and how a path text leads to them: piece by piece,
through links, with `..` meaning the directory above the place reached so far. A path that goes on after
a file leads nowhere, also when it only goes on with a slash. Nobody is kept from a place by
permissions: every file can be read and every directory opened, as long as its path is short enough.
-/

namespace Stencil

/-- Why no text can be read at a path. -/
inductive ReadProblem where
  | missing
  | isDirectory
  | notText
  deriving DecidableEq, Repr

/-- The problem in words. -/
def ReadProblem.message : ReadProblem → String
  | .missing => "No such file or directory (os error 2)"
  | .isDirectory => "Is a directory (os error 21)"
  | .notText => "stream did not contain valid UTF-8"

/-- What a place in a file tree holds. -/
inductive Node where
  | file (bytes : ByteArray)
  | directory
  | link (target : String)

/-- The places of a file tree other than its root, each with what it holds. -/
structure FileTree where
  nodes : List (List String × Node)

namespace FileTree

/-- The tree that holds nothing. -/
def empty : FileTree := ⟨[]⟩

/-- What a place holds; the root is a directory. -/
def node? (t : FileTree) (place : List String) : Option Node :=
  if place.isEmpty then some .directory else t.nodes.lookup place

/-- The tree with something put at a place. -/
def putNode (t : FileTree) (place : List String) (n : Node) : FileTree :=
  ⟨(place, n) :: t.nodes.filter (·.1 != place)⟩

/-- The tree with directories at all the places that lead to one, unless they hold something. -/
def withDirectories (t : FileTree) (place : List String) : FileTree :=
  (List.range (place.length + 1)).foldl (fun t n =>
    if (t.node? (place.take n)).isSome then t else t.putNode (place.take n) .directory) t

/-- The tree with something put at a place and the directories that lead there. -/
def put (t : FileTree) (place : List String) (n : Node) : FileTree :=
  (t.withDirectories place.dropLast).putNode place n

/-- The tree without a place and all that lies below it. -/
def remove (t : FileTree) (place : List String) : FileTree :=
  ⟨t.nodes.filter fun e => !place.isPrefixOf e.1⟩

/-- The greatest number of links followed on one path. -/
def linkLimit : Nat := 40

/-- The greatest length of one piece of a path, in bytes. -/
def segmentLimit : Nat := 255

/-- The length, in bytes, that a whole path stays below. -/
def pathLimit : Nat := 4096

/-- The place that the pieces of a path lead to from a directory. Behind a link the path goes on as
`follow` says, from a directory with the pieces that are left. -/
def walkPieces (t : FileTree) (follow : List String → List String → Option (List String))
    (place : List String) : List String → Option (List String)
  | [] => some place
  | s :: rest =>
    if s == "" || s == "." then t.walkPieces follow place rest
    else if s == ".." then t.walkPieces follow place.dropLast rest
    else if segmentLimit < s.utf8ByteSize then none
    else
      match t.node? (place ++ [s]) with
      | none => none
      | some .directory => t.walkPieces follow (place ++ [s]) rest
      | some (.file _) => if rest.isEmpty then some (place ++ [s]) else none
      | some (.link target) =>
        follow (if Path.isAbsolute target then [] else place) (Path.segments target ++ rest)

/-- The place that the pieces of a path lead to from a directory through no more than so many links. -/
def walk (t : FileTree) : Nat → List String → List String → Option (List String)
  | 0 => t.walkPieces fun _ _ => none
  | links + 1 => t.walkPieces (t.walk links)

/-- The place that a path leads to. -/
def find? (t : FileTree) (path : String) : Option (List String) :=
  if path.isEmpty || path.toList.contains '\x00' || pathLimit ≤ path.utf8ByteSize then none
  else t.walk linkLimit [] (Path.segments path)

/-- The content of the file that a path leads to. -/
def read? (t : FileTree) (path : String) : Option ByteArray :=
  match (t.find? path).bind t.node? with
  | some (.file bytes) => some bytes
  | _ => none

/-- Whether a path leads to a directory. -/
def isDirectory (t : FileTree) (path : String) : Bool :=
  match (t.find? path).bind t.node? with
  | some .directory => true
  | _ => false

/-- The text of the file that a path leads to. -/
def readText (t : FileTree) (path : String) : Except ReadProblem String :=
  match t.read? path with
  | some bytes =>
    match String.fromUTF8? bytes with
    | some text => .ok text
    | none => .error .notText
  | none => .error (if t.isDirectory path then .isDirectory else .missing)

/-- The names of the files at the places below a place, relative to it. -/
def filesAt (t : FileTree) (place : List String) : List String :=
  t.nodes.filterMap fun e =>
    match e.2 with
    | .file _ =>
      if place.isPrefixOf e.1 then some ("/".intercalate (e.1.drop place.length)) else none
    | _ => none

/-- The names, relative to it, of the files below the directory that a path leads to. Links are not
followed on the way down and not listed, and a directory whose path has become too long is not
opened. -/
def filesBelow (t : FileTree) (path : String) : List String :=
  match t.find? path with
  | none => []
  | some place =>
    match t.node? place with
    | some .directory =>
      (t.filesAt place).filter fun name => (Path.holder path name).utf8ByteSize < pathLimit
    | _ => []

end FileTree

end Stencil
