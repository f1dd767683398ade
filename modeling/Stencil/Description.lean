import Stencil.Manager

/-!
# Descriptions

The texts that describe a configuration, a source, an engine, a compiled page or a manager to someone
who looks for an error: the name of a thing and its parts in braces.
-/

namespace Stencil

open Stencil.Text

/-- A thing with named parts. -/
def described (name : String) (parts : List (String × String)) : String :=
  name ++ " \x7b " ++ ", ".intercalate (parts.map fun p => p.1 ++ ": " ++ p.2) ++ " \x7d"

/-- A list. -/
def describedList (items : List String) : String := "[" ++ ", ".intercalate items ++ "]"

/-- Something that may be missing. -/
def describedOption : Option String → String
  | some s => "Some(" ++ s ++ ")"
  | none => "None"

/-- A truth value. -/
def describedFlag (b : Bool) : String := if b then "true" else "false"

/-- A number of thousandths as a decimal without trailing zeros. -/
def thousandths (n : Nat) : String :=
  let places := (toString (1000 + n % 1000)).toList.drop 1
  let kept := (places.reverse.dropWhile (· == '0')).reverse
  toString (n / 1000) ++ (if kept.isEmpty then "" else "." ++ String.ofList kept)

/-- A span of time: in seconds from one second on, in milliseconds below. -/
def duration (ms : Nat) : String :=
  if ms == 0 then "0ns"
  else if 1000 ≤ ms then thousandths ms ++ "s"
  else toString ms ++ "ms"

/-- The description of a store's settings. -/
def StoreSettings.description (s : StoreSettings) : String :=
  described "CacheSettings"
    [("time_to_live", duration s.timeToLive), ("max_capacity", toString s.capacity)]

/-- The description of a configuration. -/
def CacheConfig.description (c : CacheConfig) : String :=
  described "CacheConfig"
    [("template_cache", describedOption (c.templateCache.map StoreSettings.description)),
      ("tag_cache", describedOption (c.tagCache.map StoreSettings.description)),
      ("strict_variables", describedFlag c.strictVariables)]

/-- The description of a tier. -/
def Tier.description : Tier → String
  | .site => "Site"
  | .theme => "Theme"
  | .parentTheme => "ParentTheme"
  | .inline => "Inline"

/-- The description of a policy. -/
def CachePolicy.description : CachePolicy → String
  | .development => "Development"
  | .production => "Production"

namespace Source

mutual

/-- The description of a source. A recording is described by its handle and tier. -/
def description : Source → String
  | files root tier => described "FileSource" [("root", quote root), ("tier", tier.description)]
  | recorded handle tier =>
    described "RecordingSource" [("handle", toString handle), ("tier", tier.description)]
  | inline => "StringSource"
  | chain sources => described "SourceChain" [("sources", describedList (descriptions sources))]

/-- The descriptions of some sources. -/
def descriptions : List Source → List String
  | [] => []
  | s :: rest => s.description :: descriptions rest

end

end Source

/-- The description of a compiled page. -/
def Compiled.description (page : Compiled) : String :=
  described "CompiledTemplate" [("name", quote page.name), ("tier", page.tier.description)]

/-- The description of an engine's counts. -/
def EngineStats.description (s : EngineStats) : String :=
  described "EngineStats"
    [("compilations", toString s.compilations), ("cache_hits", toString s.cacheHits),
      ("cached_templates", toString s.cachedTemplates)]

/-- The description of an engine at a time. -/
def Engine.description (e : Engine) (now : Nat) : String :=
  described "RenderEngine"
    [("source", e.source.description), ("config", e.config.description),
      ("stats", (e.stats now).description)]

/-- The description of a manager. -/
def Manager.description (m : Manager) : String :=
  described "TemplateEngineManager"
    [("policy", m.policy.description), ("theme", quote m.theme.name),
      ("tiers", describedList (m.tiers.map Tier.description))]

end Stencil
