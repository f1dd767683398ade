import Stencil.FileTree
import Stencil.Error
import Stencil.Text.Quoted

/-!
# Template sources

A source supplies template bodies by name: from files below a directory, from a recording that notes
what it is asked for, from the name itself, or from the first of several sources that has one. Sources
only say where to look; what is found there is part of the world.
-/

namespace Stencil

/-- The level that a template comes from. -/
inductive Tier where
  | site
  | theme
  | parentTheme
  | inline
  deriving DecidableEq, Repr

/-- The tier in words. -/
def Tier.label : Tier → String
  | .site => "site"
  | .theme => "theme"
  | .parentTheme => "parent-theme"
  | .inline => "inline"

/-- A template body with its name and the tier it comes from. -/
structure Loaded where
  name : String
  content : String
  tier : Tier
  deriving DecidableEq, Repr

/-- A template that a source can list. -/
structure Entry where
  name : String
  tier : Tier
  deriving DecidableEq, Repr

/-- Templates held in memory, with the names asked for so far, the latest first. While a failure is set
every look-up fails with it. -/
structure Recording where
  templates : List (String × String)
  lookups : List String
  failure : Option String
  deriving DecidableEq, Repr

namespace Recording

/-- A recording without templates. -/
def empty : Recording := ⟨[], [], none⟩

/-- The recording with a template added or replaced. -/
def set (r : Recording) (name content : String) : Recording :=
  { r with templates := (name, content) :: r.templates.filter (·.1 != name) }

/-- The recording without a template. -/
def remove (r : Recording) (name : String) : Recording :=
  { r with templates := r.templates.filter (·.1 != name) }

/-- The recording with a failure of every look-up. -/
def fail (r : Recording) (message : String) : Recording := { r with failure := some message }

/-- The recording with a name noted. -/
def note (r : Recording) (name : String) : Recording := { r with lookups := name :: r.lookups }

/-- The recording with no names noted. -/
def clearLookups (r : Recording) : Recording := { r with lookups := [] }

end Recording

/-- What lies outside the program: files, recordings, and the time in milliseconds. -/
structure World where
  files : FileTree
  recordings : List Recording
  now : Nat

namespace World

/-- A recording. -/
def recording (w : World) (handle : Nat) : Recording := w.recordings.getD handle .empty

/-- The world with a recording changed. -/
def modifyRecording (w : World) (handle : Nat) (f : Recording → Recording) : World :=
  { w with recordings := w.recordings.modify handle f }

/-- The world after some time. -/
def after (w : World) (ms : Nat) : World := { w with now := w.now + ms }

end World

/-- Where template bodies come from. -/
inductive Source where
  /-- Files below a directory. -/
  | files (root : String) (tier : Tier)
  /-- A recording. -/
  | recorded (handle : Nat) (tier : Tier)
  /-- The name itself. -/
  | inline
  /-- The first of several sources that has the template. -/
  | chain (sources : List Source)

/-- The body that a file below a directory holds, if there is one. Names that would leave the directory
have none. -/
def loadFile (root : String) (tier : Tier) (name : String) (files : FileTree) :
    Except String (Option Loaded) :=
  if !Path.isContained name then .ok none
  else
    match files.readText (Path.join root name) with
    | .ok content => .ok (some ⟨name, content, tier⟩)
    | .error .notText => .error ReadProblem.notText.message
    | .error _ => .ok none

/-- The body that a recording holds, if there is one. -/
def loadRecorded (tier : Tier) (name : String) (r : Recording) : Except String (Option Loaded) :=
  match r.failure with
  | some message => .error message
  | none => .ok ((r.templates.lookup name).map fun content => ⟨name, content, tier⟩)

namespace Source

mutual

/-- The body of a name and the world after the look-up; none if the source has none, or the reason why
it cannot tell. -/
def load (name : String) : Source → World → Except String (Option Loaded) × World
  | files root tier, w => (loadFile root tier name w.files, w)
  | recorded handle tier, w =>
    (loadRecorded tier name (w.recording handle), w.modifyRecording handle (·.note name))
  | inline, w => (.ok (some ⟨name, name, .inline⟩), w)
  | chain sources, w => loadFirst name sources w

/-- The answer of the first source that does not lack the name. -/
def loadFirst (name : String) : List Source → World → Except String (Option Loaded) × World
  | [], w => (.ok none, w)
  | s :: rest, w =>
    match s.load name w with
    | (.ok none, w) => loadFirst name rest w
    | answer => answer

end

/-- How a name is shown. -/
def displayName (source : Source) (name : String) : String :=
  match source with
  | inline => "<inline template>"
  | _ => name

/-- The body of a name, which has to be there. -/
def resolve (source : Source) (name : String) (w : World) : Except TemplateError Loaded × World :=
  match source.load name w with
  | (.ok (some found), w) => (.ok found, w)
  | (.ok none, w) => (.error (.notFound (source.displayName name)), w)
  | (.error message, w) => (.error (.io message), w)

/-- The tier of a source that has a single one. -/
def tier? : Source → Option Tier
  | files _ tier => some tier
  | recorded _ tier => some tier
  | inline => some .inline
  | chain _ => none

/-- The tiers of the sources of a chain. -/
def tiers : Source → List Tier
  | chain sources => sources.filterMap tier?
  | source => source.tier?.toList

end Source

/-- Entries with one more in the order of names, unless its name is there already. -/
def addEntry (e : Entry) : List Entry → List Entry
  | [] => [e]
  | f :: rest =>
    if e.name == f.name then f :: rest
    else if e.name < f.name then e :: f :: rest
    else f :: addEntry e rest

/-- Entries in the order of names, each name once, the earlier entry winning. -/
def sortEntries (entries : List Entry) : List Entry :=
  entries.foldl (fun acc e => addEntry e acc) []

namespace Source

mutual

/-- The templates that a source can list, in the order of names. -/
def entries (w : World) : Source → List Entry
  | files root tier => sortEntries ((w.files.filesBelow root).map fun name => ⟨name, tier⟩)
  | recorded handle tier =>
    sortEntries ((w.recording handle).templates.map fun e => ⟨e.1, tier⟩)
  | inline => []
  | chain sources => sortEntries (allEntries w sources)

/-- The templates of several sources, one after the other. -/
def allEntries (w : World) : List Source → List Entry
  | [] => []
  | s :: rest => s.entries w ++ allEntries w rest

end

/-- The source with one more at the end of the chain. -/
def push (source other : Source) : Source :=
  match source with
  | chain sources => chain (sources ++ [other])
  | source => source

end Source

end Stencil
