import Stencil.Error
import Stencil.FileTree
import Stencil.Policy
import Stencil.Text.Blank
import Stencil.Yaml.Plain

/-!
# Server properties

The settings of a server, from a YAML text and from a flag given beside it. A text without any content
stands for the defaults; other settings in the text are ignored.
-/

namespace Stencil

open Stencil.Yaml Stencil.Text

/-- The settings of a server. -/
structure ServerProperties where
  /-- Whether templates are never cached and undefined values refused. -/
  dev : Bool
  deriving DecidableEq, Repr

namespace ServerProperties

/-- The settings of a server about which nothing is said. -/
def standard : ServerProperties := ⟨false⟩

/-- The policy that the settings ask for. -/
def policy (p : ServerProperties) : CachePolicy := .forDevMode p.dev

/-- Why a document is no settings. -/
inductive Mismatch where
  /-- Another value stands where one is expected; `field` is its path. -/
  | kind (field : Option String) (found expected : String) (mark : Mark)
  | badTag (field : Option String) (found expected : String) (mark : Mark)
  | repeated (name : String) (mark : Mark)
  | unknownAnchor (mark : Mark)
  | malformed (f : Fault)
  | severalDocuments
  | noContent
  deriving DecidableEq, Repr

/-- A message with the path before it and the place after it. -/
def placed (field : Option String) (message : String) (mark : Mark) : String :=
  (match field with
    | some name => name ++ ": "
    | none => "") ++ message ++ mark.suffix

/-- The mismatch in words. -/
def Mismatch.message : Mismatch → String
  | kind field found expected mark =>
    placed field ("invalid type: " ++ found ++ ", expected " ++ expected) mark
  | badTag field found expected mark =>
    placed field ("invalid value: " ++ found ++ ", expected " ++ expected) mark
  | repeated name mark => placed none ("duplicate field \x60" ++ name ++ "\x60") mark
  | unknownAnchor mark => placed none "unknown anchor" mark
  | malformed f => f.words
  | severalDocuments => "deserializing from YAML containing more than one document is not supported"
  | noContent => "EOF while parsing a value"

/-- A part of a document as it is written, and what it means, which for a reference is the part that
carries the anchor. -/
structure Part where
  written : Event
  meant : PlacedEvent

/-- A document: its parts, and what stopped the reading of it, if anything. -/
structure Document where
  parts : List Part
  stop : Option Mismatch

/-- The parts of the first document, those before latest first, with the rest of the stream. A reference
means the latest part before it that carries its anchor; without one it ends the document. -/
def firstDocument (fault : Option Fault) (before : List Part) :
    List PlacedEvent → Document × List PlacedEvent
  | [] => (⟨before.reverse, fault.map .malformed⟩, [])
  | e :: rest =>
    match e.event with
    | .documentStart => firstDocument fault before rest
    | .documentEnd => (⟨before.reverse, none⟩, rest)
    | .reference name =>
      match before.find? (·.written.anchor? == some name) with
      | some p => firstDocument fault (⟨e.event, p.meant⟩ :: before) rest
      | none => (⟨before.reverse, some (.unknownAnchor e.mark)⟩, [])
    | _ => firstDocument fault (⟨e.event, e⟩ :: before) rest

/-- The name of the tag for truth values. -/
def boolTag : String := "tag:yaml.org,2002:bool"

/-- What a scalar is called where another value is expected. -/
def scalarMismatch (field : Option String) (expected : String) (mark : Mark)
    (text : String) (style : Style) (tag : Option String) : Mismatch :=
  let asText : Mismatch := .kind field (Reading.text text).words expected mark
  let asPlain : Mismatch := .kind field (readPlainText text).words expected mark
  let wanted (r : Option Reading) (name : String) : Mismatch :=
    match r with
    | some r => .kind field r.words expected mark
    | none => .badTag field (Reading.text text).words name mark
  match tag with
  | none => if style = .plain then asPlain else asText
  | some tag =>
    if tag == boolTag then wanted ((readBool? text).map .bool) "a boolean"
    else if tag == "tag:yaml.org,2002:int" then wanted ((readWhole? text).map .int) "an integer"
    else if tag == "tag:yaml.org,2002:float" then wanted ((readReal? text).map .float) "a float"
    else if tag == "tag:yaml.org,2002:null" then
      wanted (if isNothing text then some .nothing else none) "null"
    else if tag.toList.head? == some '!' && style = .plain then asPlain
    else asText

/-- What is left of a document behind its next part. -/
def skipPart (stop : Option Mismatch) : Nat → List Part → Except Mismatch (List Part)
  | _, [] => .error (stop.getD .noContent)
  | depth, p :: rest =>
    match p.written with
    | .sequenceStart _ => skipPart stop (depth + 1) rest
    | .mappingStart _ => skipPart stop (depth + 1) rest
    | .sequenceEnd => if depth ≤ 1 then .ok rest else skipPart stop (depth - 1) rest
    | .mappingEnd => if depth ≤ 1 then .ok rest else skipPart stop (depth - 1) rest
    | _ => if depth == 0 then .ok rest else skipPart stop depth rest

/-- The truth value of a setting. -/
def readFlag (stop : Option Mismatch) (field : String) :
    List Part → Except Mismatch (Bool × List Part)
  | [] => .error (stop.getD .noContent)
  | p :: rest =>
    let mark := p.meant.mark
    match p.meant.event with
    | .scalar text style tag _ =>
      let mayBe := style = .plain || (style = .literal && tag == some boolTag)
      match (if mayBe then readBool? text else none) with
      | some b => .ok (b, rest)
      | none => .error (scalarMismatch (some field) "a boolean" mark text style tag)
    | .sequenceStart _ => .error (.kind (some field) "sequence" "a boolean" mark)
    | .mappingStart _ => .error (.kind (some field) "map" "a boolean" mark)
    | _ => .error .noContent

/-- The settings that a mapping holds, from behind its start. `steps` bounds the number of its entries. -/
def readEntries (stop : Option Mismatch) (start : Mark) : Nat → Option Bool → List Part →
    Except Mismatch (Option Bool × List Part)
  | 0, found, rest => .ok (found, rest)
  | _, _, [] => .error (stop.getD .noContent)
  | steps + 1, found, p :: rest =>
    let mark := p.meant.mark
    match p.meant.event with
    | .mappingEnd => .ok (found, rest)
    | .scalar text _ _ _ =>
      if text == "dev" then
        if found.isSome then .error (.repeated "dev" start)
        else
          match readFlag stop "dev" rest with
          | .error m => .error m
          | .ok (b, rest) => readEntries stop start steps (some b) rest
      else
        match skipPart stop 0 rest with
        | .error m => .error m
        | .ok rest => readEntries stop start steps found rest
    | .sequenceStart _ => .error (.kind none "sequence" "field identifier" mark)
    | .mappingStart _ => .error (.kind none "map" "field identifier" mark)
    | _ => .error .noContent

/-- The settings that a document holds. -/
def readDocument (doc : Document) : Except Mismatch ServerProperties :=
  match doc.parts with
  | [] =>
    match doc.stop with
    | some m => .error m
    | none => .ok standard
  | p :: rest =>
    let mark := p.meant.mark
    match p.written with
    | .mappingStart _ =>
      match readEntries doc.stop mark (rest.length + 1) none rest with
      | .error m => .error m
      | .ok (found, _) => .ok ⟨found.getD standard.dev⟩
    | .scalar text style tag _ =>
      .error (scalarMismatch none "struct ServerProperties" mark text style tag)
    | .sequenceStart _ => .error (.kind none "sequence" "struct ServerProperties" mark)
    | _ => .error .noContent

/-- The settings that a YAML text holds, or why it holds none. -/
def read (text : String) : Except Mismatch ServerProperties :=
  let stream := events text
  let (doc, rest) := firstDocument stream.fault [] stream.events
  match readDocument doc with
  | .error m => .error m
  | .ok p =>
    match doc.stop with
    | some m => .error m
    | none =>
      if rest.isEmpty && stream.fault.isNone then .ok p
      else .error .severalDocuments

/-- The settings that a YAML text holds. -/
def ofYaml (text : String) : Except PropertiesError ServerProperties :=
  match read text with
  | .ok p => .ok p
  | .error m => .error (.yaml m.message)

/-- The settings in the YAML file that a path leads to. -/
def load (files : FileTree) (path : String) : Except PropertiesError ServerProperties :=
  match files.readText path with
  | .ok text => ofYaml text
  | .error problem => .error (.io problem.message)

/-- The truth value that a flag spells. -/
def readSwitch? (word : String) : Option Bool :=
  if ["1", "true", "yes", "on"].contains word then some true
  else if ["0", "false", "no", "off"].contains word then some false
  else none

/-- The variable that overrides the settings from outside. -/
def overrideName : String := "CMS_DEV"

/-- The settings with the flag for development given as a text. -/
def withOverride (_ : ServerProperties) (value : String) : Except PropertiesError ServerProperties :=
  let word := String.ofList ((trim value.toList).map Char.toLower)
  match readSwitch? word with
  | some b => .ok ⟨b⟩
  | none => .error (.invalid overrideName ("expected a boolean, got '" ++ word ++ "'"))

/-- The settings with the flag from outside, if there is one. -/
def withOutside (p : ServerProperties) (value : Option String) :
    Except PropertiesError ServerProperties :=
  match value with
  | some v => p.withOverride v
  | none => .ok p

end ServerProperties

end Stencil
