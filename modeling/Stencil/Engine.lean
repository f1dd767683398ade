import Stencil.Source
import Stencil.Policy
import Stencil.Model
import Stencil.Grammar.Parser
import Stencil.Eval.Run

/-!
# Engines

An engine renders templates from a source. It compiles a page on demand and may keep the compiled form
for a while; a compiled page remembers the templates it has loaded, so what it includes, extends or
imports is loaded once. Fragments are kept in a store that all pages of the engine share. The engine
answers the dialogue that evaluating a page is: `converse` is the one place where evaluation meets the
source and the stores.
-/

namespace Stencil

open Stencil.Grammar

/-! ## Answering a dialogue -/

/-- What answering questions changes: the world, the templates loaded so far, and the fragments. -/
structure Session where
  world : World
  loaded : List (String × Template)
  tags : Option (Store String)

/-- The answer to a question for a template. -/
inductive Supply where
  | found (t : Template)
  | missing
  /-- The source cannot tell. -/
  | unreadable (reason : String)
  /-- The body is not well formed. -/
  | malformed (m : Misfit)

namespace Session

/-- The template of a name: the one loaded before, or what the source has now. Only a template that is
found is remembered. -/
def fetch (source : Source) (name : String) (s : Session) : Supply × Session :=
  match s.loaded.lookup name with
  | some t => (.found t, s)
  | none =>
    match source.load name s.world with
    | (.error reason, w) => (.unreadable reason, { s with world := w })
    | (.ok none, w) => (.missing, { s with world := w })
    | (.ok (some body), w) =>
      match parse name body.content with
      | .error m => (.malformed m, { s with world := w })
      | .ok t => (.found t, { s with world := w, loaded := (name, t) :: s.loaded })

/-- The fragment kept under a key. -/
def fragment? (key : String) (s : Session) : Option String :=
  s.tags.bind fun store => store.get? s.world.now key

/-- The session with a fragment kept. -/
def keep (key text : String) (s : Session) : Session :=
  { s with tags := s.tags.map fun store => store.insert s.world.now key text }

end Session

/-- The end of an evaluation that needs a template which the source cannot supply. -/
def unreadableStop (place : Place) (name reason : String) : Stop :=
  ⟨.failed (.sourceFailed name (TemplateError.io reason).message), place⟩

/-- The end of an evaluation that needs a template which is not well formed; it is reported for the line of
that template. -/
def malformedStop (place : Place) (name : String) (m : Misfit) : Stop :=
  ⟨.failed (.malformed m.problem), { place with site := ⟨name, m.line⟩ }⟩

/-- The outcome of a dialogue whose questions are answered from a source and a session. -/
def converse {α : Type} (source : Source) (strict : Bool) :
    Dialogue α → Session → Except Stop α × Session
  | .done a, s => (.ok a, s)
  | .fail cause place, s => (.error ⟨.failed cause, place⟩, s)
  | .exhausted place, s => (.error ⟨.exhausted, place⟩, s)
  | .template name place next, s =>
    match s.fetch source name with
    | (.found t, s) => converse source strict (next (some t)) s
    | (.missing, s) => converse source strict (next none) s
    | (.unreadable reason, s) => (.error (unreadableStop place name reason), s)
    | (.malformed m, s) => (.error (malformedStop place name m), s)
  | .fragment key next, s => converse source strict (next (s.fragment? key)) s
  | .keep key made next, s => converse source strict (next ()) (s.keep key made.text)
  | .forgive cause place next, s =>
    if strict then (.error ⟨.refused cause, place⟩, s) else converse source strict (next ()) s

/-! ## Engines -/

/-- A page ready for evaluation: its name, the tier it came from, its template, and the templates loaded
so far for evaluating it, itself included. -/
structure Compiled where
  name : String
  tier : Tier
  template : Template
  loaded : List (String × Template)

/-- How an engine is counted. -/
structure EngineStats where
  compilations : Nat
  cacheHits : Nat
  cachedTemplates : Nat
  deriving DecidableEq, Repr

/-- An engine. -/
structure Engine where
  source : Source
  config : CacheConfig
  /-- How many bodies inside bodies an evaluation may need. -/
  levels : Nat
  templates : Option (Store Compiled)
  tags : Option (Store String)
  compilations : Nat
  cacheHits : Nat

namespace Engine

/-- The levels of bodies inside bodies that an engine allows. -/
def standardLevels : Nat := 2000

/-- A new engine; `victim` is what its stores drop when they are full. -/
def build (source : Source) (config : CacheConfig) (levels : Nat) (victim : Victim) : Engine where
  source := source
  config := config
  levels := levels
  templates := config.templateCache.map fun s => .empty s victim
  tags := config.tagCache.map fun s => .empty s victim
  compilations := 0
  cacheHits := 0

/-- Whether the engine keeps compiled pages. -/
def isCaching (e : Engine) : Bool := e.templates.isSome

/-- The engine without anything it has kept. -/
def invalidate (e : Engine) : Engine :=
  { e with templates := e.templates.map Store.clear, tags := e.tags.map Store.clear }

/-- The counts of an engine at a time. -/
def stats (e : Engine) (now : Nat) : EngineStats :=
  ⟨e.compilations, e.cacheHits, (e.templates.map (·.count now)).getD 0⟩

/-- The error for a body that is not well formed. -/
def compileError (shown name : String) (m : Misfit) : TemplateError :=
  .malformed shown (Failure.message ⟨.plain (.malformed m.problem), ⟨name, m.line⟩⟩)

/-- Compiles a page from what the source has now. -/
def compile (e : Engine) (name : String) (w : World) :
    Except TemplateError Compiled × Engine × World :=
  match e.source.resolve name w with
  | (.error err, w) => (.error err, e, w)
  | (.ok body, w) =>
    match parse name body.content with
    | .error m => (.error (compileError (e.source.displayName name) name m), e, w)
    | .ok t => (.ok ⟨name, body.tier, t, [(name, t)]⟩, { e with compilations := e.compilations + 1 }, w)

/-- The compiled form of a page, from the store or compiled now. -/
def template (e : Engine) (name : String) (w : World) :
    Except TemplateError Compiled × Engine × World :=
  match e.templates with
  | none => e.compile name w
  | some store =>
    match store.get? w.now name with
    | some page => (.ok page, { e with cacheHits := e.cacheHits + 1 }, w)
    | none =>
      match e.compile name w with
      | (.error err, e, w) => (.error err, e, w)
      | (.ok page, e, w) =>
        (.ok page, { e with templates := some (store.insert w.now name page) }, w)

/-- Evaluates a compiled page: the outcome, and the session after it. -/
def evaluate (e : Engine) (page : Compiled) (m : Model) (w : World) :
    Except Stop String × Session :=
  converse e.source e.config.strictVariables (Eval.render e.levels page.template m.fields)
    ⟨w, page.loaded, e.tags⟩

/-- Renders a page. What the page has loaded stays with its kept form. -/
def render (e : Engine) (name : String) (m : Model) (w : World) :
    Except TemplateError String × Engine × World :=
  match e.template name w with
  | (.error err, e, w) => (.error err, e, w)
  | (.ok page, e, w) =>
    let (outcome, session) := e.evaluate page m w
    let e := { e with
      templates := e.templates.map fun store =>
        store.update name fun kept => { kept with loaded := session.loaded }
      tags := session.tags }
    match outcome with
    | .ok text => (.ok text, e, session.world)
    | .error stop =>
      (.error (.ofFailure (e.source.displayName name) e.config.strictVariables stop.failure), e,
        session.world)

end Engine

end Stencil
