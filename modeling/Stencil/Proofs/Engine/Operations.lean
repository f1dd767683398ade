import Stencil.Proofs.Engine.Conversation

/-!
# Engines at work

What callers do with an engine, and what happens around it: pages are rendered or only compiled,
everything kept is invalidated, files and recordings change, time passes. An engine in its world
is a `Situation`; an operation leads from one situation to the next and has an answer, and a run
is a list of operations. `replies` are the answers of a run, each with the counts after it.

The first half gives every operation of an engine one equation by the outcome of its parts
(`compile_eq`, `template_of_hit`, `template_of_miss`, `render_of_ok`), so that arguments about
runs need not unfold the engine. The second half says what it means that stores find room for what
a run writes (`TagsFit`, `PagesFit`) and that a condition holds all along a run (`Throughout`).
-/

namespace Stencil

open Stencil.Grammar

namespace Engine

/-! ## Operations by their parts -/

/-- What compiling a name comes to, by the answer of the source. -/
def compiled (source : Source) (name : String) :
    Except String (Option Loaded) → Except TemplateError Compiled
  | .error message => .error (.io message)
  | .ok none => .error (.notFound (source.displayName name))
  | .ok (some body) =>
    match parse name body.content with
    | .error m => .error (compileError (source.displayName name) name m)
    | .ok t => .ok ⟨name, body.tier, t, [(name, t)]⟩

/-- A page that has just been compiled is what the source has, and remembers nothing but itself. -/
theorem of_compiled {source : Source} {name : String} {answer : Except String (Option Loaded)}
    {page : Compiled} (h : compiled source name answer = .ok page) :
    Supply.ofAnswer name answer = .found page.template ∧ page.loaded = [(name, page.template)] := by
  rcases answer with message | _ | body
  · cases h
  · cases h
  · simp only [compiled] at h
    simp only [Supply.ofAnswer]
    cases hparse : parse name body.content with
    | error m =>
      rw [hparse] at h
      cases h
    | ok t =>
      rw [hparse] at h
      cases h
      exact ⟨rfl, rfl⟩

/-- What an outcome of compiling adds to the count of compilations. -/
def countOf : Except TemplateError Compiled → Nat
  | .ok _ => 1
  | .error _ => 0

/-- Compiling asks the source once, and its answer decides. -/
theorem compile_eq (e : Engine) (name : String) (w : World) :
    e.compile name w =
      (compiled e.source name (e.source.answer name w),
        { e with
          compilations :=
            e.compilations + countOf (compiled e.source name (e.source.answer name w)) },
        (e.source.load name w).2) := by
  simp only [compile, Source.resolve, Source.answer]
  rcases e.source.load name w with ⟨answer, w'⟩
  rcases answer with message | found
  · rfl
  · cases found with
    | none => rfl
    | some body =>
      simp only [compiled]
      cases parse name body.content with
      | error m => rfl
      | ok t => rfl

/-- Pages with a page that was compiled written under its name. -/
def written (now : Nat) (name : String) (r : Except TemplateError Compiled)
    (pages : Store Compiled) : Store Compiled :=
  match r with
  | .ok page => pages.insert now name page
  | .error _ => pages

/-- The engine after a page that was not kept has been compiled: if that succeeded, the page is
kept. -/
def kept (e : Engine) (now : Nat) (name : String) (r : Except TemplateError Compiled) : Engine :=
  { e with
    templates := e.templates.map (written now name r)
    compilations := e.compilations + countOf r }

/-- The page that an engine keeps under a name at a time. -/
def page? (e : Engine) (now : Nat) (name : String) : Option Compiled :=
  e.templates.bind fun store => store.get? now name

/-- A page that is kept is answered from the store, and the source is not asked. -/
theorem template_of_hit {e : Engine} {w : World} {name : String} {page : Compiled}
    (h : e.page? w.now name = some page) :
    e.template name w = (.ok page, { e with cacheHits := e.cacheHits + 1 }, w) := by
  obtain ⟨store, hstore, hget⟩ := Option.bind_eq_some_iff.mp h
  simp only [template, hstore, hget]

/-- A page that is not kept is compiled, and kept if the engine keeps pages at all. -/
theorem template_of_miss {e : Engine} {w : World} {name : String} (h : e.page? w.now name = none) :
    e.template name w =
      (compiled e.source name (e.source.answer name w),
        e.kept w.now name (compiled e.source name (e.source.answer name w)),
        (e.source.load name w).2) := by
  cases hstore : e.templates with
  | none => simp only [template, hstore, compile_eq, kept, Option.map_none]
  | some store =>
    have hget : store.get? w.now name = none := by
      simpa only [page?, hstore, Option.bind_some] using h
    simp only [template, hstore, hget, compile_eq, kept]
    cases compiled e.source name (e.source.answer name w) with
    | error err =>
      have hsame : (some store).map (written w.now name (.error err)) = e.templates := hstore.symm
      simp only [hsame, hstore, countOf, Nat.add_zero]
    | ok page => simp only [countOf, written, Option.map_some, Source.load_now]

/-- Asking for a page changes nothing in the world but what is noted. -/
theorem template_alike (e : Engine) (name : String) (w : World) :
    (e.template name w).2.2.Alike w := by
  cases hp : e.page? w.now name with
  | some page =>
    rw [template_of_hit hp]
    exact .refl w
  | none =>
    rw [template_of_miss hp]
    exact e.source.load_alike name w

/-- Asking for a page does not change where the engine gets its pages. -/
theorem template_source (e : Engine) (name : String) (w : World) :
    (e.template name w).2.1.source = e.source := by
  cases hp : e.page? w.now name with
  | some page => rw [template_of_hit hp]
  | none => rw [template_of_miss hp, kept]

/-- Getting a page changes no settings. -/
theorem template_config (e : Engine) (name : String) (w : World) :
    (e.template name w).2.1.config = e.config := by
  cases hp : e.page? w.now name with
  | some page => rw [template_of_hit hp]
  | none => rw [template_of_miss hp, kept]

/-- Getting a page changes no limit of levels. -/
theorem template_levels (e : Engine) (name : String) (w : World) :
    (e.template name w).2.1.levels = e.levels := by
  cases hp : e.page? w.now name with
  | some page => rw [template_of_hit hp]
  | none => rw [template_of_miss hp, kept]

/-- Asking for a page leaves the fragments alone. -/
theorem template_tags (e : Engine) (name : String) (w : World) :
    (e.template name w).2.1.tags = e.tags := by
  cases hp : e.page? w.now name with
  | some page => rw [template_of_hit hp]
  | none => rw [template_of_miss hp, kept]

/-- The engine after an evaluation: the kept form of the page has the templates loaded by then,
and the fragments are those of the session. -/
def settled (e : Engine) (name : String) (s : Session) : Engine :=
  { e with
    templates := e.templates.map fun store =>
      store.update name fun kept => { kept with loaded := s.loaded }
    tags := s.tags }

/-- What a caller is told of an evaluation. -/
def told (e : Engine) (name : String) : Except Stop String → Except TemplateError String
  | .ok text => .ok text
  | .error stop =>
    .error (.ofFailure (e.source.displayName name) e.config.strictVariables stop.failure)

/-- What is told of a failure depends on the source and on the strictness only. -/
theorem told_congr {e e' : Engine} (hsource : e.source = e'.source)
    (hstrict : e.config.strictVariables = e'.config.strictVariables) (name : String) :
    e.told name = e'.told name := by
  funext r
  cases r with
  | ok text => rfl
  | error stop => simp only [told, hsource, hstrict]

/-- Only a text is told as a text. -/
theorem told_eq_ok_iff {e : Engine} {name : String} {r : Except Stop String} {text : String} :
    e.told name r = .ok text ↔ r = .ok text := by
  cases r with
  | ok other => simp only [told, Except.ok.injEq]
  | error stop => exact ⟨nofun, nofun⟩

/-- A page that cannot be had is not evaluated. -/
theorem render_of_error {e e' : Engine} {w w' : World} {name : String} {err : TemplateError}
    (h : e.template name w = (.error err, e', w')) (m : Model) :
    e.render name m w = (.error err, e', w') := by
  simp only [render, h]

/-- A page that can be had is evaluated. -/
theorem render_of_ok {e e' : Engine} {w w' : World} {name : String} {page : Compiled}
    (h : e.template name w = (.ok page, e', w')) (m : Model) :
    e.render name m w =
      (e'.told name (e'.evaluate page m w').1, e'.settled name (e'.evaluate page m w').2,
        (e'.evaluate page m w').2.world) := by
  simp only [render, h]
  rcases e'.evaluate page m w' with ⟨outcome, s⟩
  cases outcome with
  | ok text => rfl
  | error stop => rfl

/-- Rendering changes nothing in the world but what is noted. -/
theorem render_alike (e : Engine) (name : String) (m : Model) (w : World) :
    (e.render name m w).2.2.Alike w := by
  have ht := e.template_alike name w
  rcases hr : e.template name w with ⟨r, e', w'⟩
  rw [hr] at ht
  cases r with
  | error err =>
    rw [render_of_error hr]
    exact ht
  | ok page =>
    rw [render_of_ok hr]
    refine converse_induction (I := fun s => s.world.Alike w) ?_ ?_ _ _ ht
    · exact fun s other hs => (s.fetch_alike e'.source other).trans hs
    · exact fun s key text hs => hs

/-! ## Kept pages -/

/-- Every kept page is as required of pages of its name. -/
def Pages (required : String → Compiled → Prop) (e : Engine) : Prop :=
  ∀ store ∈ e.templates, ∀ entry ∈ store.entries, required entry.key entry.value

namespace Pages

variable {required : String → Compiled → Prop} {e : Engine} {name : String}

/-- A page that is found is as required, because it is kept. -/
theorem page? (h : e.Pages required) {now : Nat} {page : Compiled}
    (hpage : e.page? now name = some page) : required name page := by
  obtain ⟨store, hstore, hget⟩ := Option.bind_eq_some_iff.mp hpage
  obtain ⟨entry, hmem, hkey, hvalue⟩ := Store.exists_of_get? hget
  rw [← hkey, ← hvalue]
  exact h store hstore entry hmem

/-- Whatever becomes of a look-up, what is kept is as required if the page is. -/
theorem kept (h : e.Pages required) (now : Nat) {r : Except TemplateError Compiled}
    (hr : ∀ page, r = .ok page → required name page) : (e.kept now name r).Pages required := by
  intro store hstore entry hmem
  obtain ⟨old, hold, rfl⟩ := Option.map_eq_some_iff.mp hstore
  cases r with
  | error err => exact h old hold entry hmem
  | ok page =>
    rcases Store.mem_insert hmem with rfl | hmem
    · exact hr page rfl
    · exact h old hold entry hmem

/-- What a rendering leaves is as required if a page may remember what the rendering has loaded. -/
theorem settled (h : e.Pages required) {s : Session}
    (hs : ∀ page, required name page → required name { page with loaded := s.loaded }) :
    (e.settled name s).Pages required := by
  intro store hstore entry hmem
  obtain ⟨old, hold, rfl⟩ := Option.map_eq_some_iff.mp hstore
  rcases Store.mem_update hmem with hmem | ⟨before, hbefore, rfl, rfl⟩
  · exact h old hold entry hmem
  · exact hs before.value (h old hold before hbefore)

/-- Nothing is required of a page that has been dropped. -/
theorem invalidate (required : String → Compiled → Prop) (e : Engine) :
    e.invalidate.Pages required := by
  intro store hstore entry hmem
  obtain ⟨old, _, rfl⟩ := Option.map_eq_some_iff.mp hstore
  cases hmem

/-- A new engine keeps no page. -/
theorem build (required : String → Compiled → Prop) (source : Source) (config : CacheConfig)
    (levels : Nat) (victim : Victim) : (build source config levels victim).Pages required := by
  intro store hstore entry hmem
  obtain ⟨settings, _, rfl⟩ := Option.map_eq_some_iff.mp hstore
  cases hmem

end Pages

/-! ## What an engine is built with -/

/-- The engine works from a source with a configuration and a number of levels, and its stores are
as the configuration has them. -/
structure Serves (e : Engine) (source : Source) (config : CacheConfig) (levels : Nat) : Prop where
  source : e.source = source
  pages : e.templates.map Store.settings = config.templateCache
  tags : e.tags.map Store.settings = config.tagCache
  config : e.config = config
  levels : e.levels = levels

/-- An engine serves what it was built for. -/
theorem serves_build (source : Source) (config : CacheConfig) (levels : Nat) (victim : Victim) :
    (build source config levels victim).Serves source config levels := by
  refine ⟨rfl, ?_, ?_, rfl, rfl⟩
  · simp only [build]
    cases config.templateCache with
    | none => rfl
    | some settings => rfl
  · simp only [build]
    cases config.tagCache with
    | none => rfl
    | some settings => rfl

namespace Serves

variable {e : Engine} {source : Source} {config : CacheConfig} {levels : Nat}

/-- Getting a page changes nothing of what an engine serves. -/
theorem template (h : e.Serves source config levels) (name : String) (w : World) :
    (e.template name w).2.1.Serves source config levels := by
  cases hp : e.page? w.now name with
  | some page =>
    rw [template_of_hit hp]
    exact { h with }
  | none =>
    rw [template_of_miss hp]
    refine { h with pages := (Store.map_settings_map (fun store => ?_) _).trans h.pages }
    cases compiled e.source name (e.source.answer name w) with
    | error err => rfl
    | ok page => exact store.settings_insert w.now name page

private theorem settled (h : e.Serves source config levels) (name : String) {s : Session}
    (tags : s.tags.map Store.settings = config.tagCache) :
    (e.settled name s).Serves source config levels :=
  { h with
    pages := (Store.map_settings_map (fun store => store.settings_update name _) _).trans h.pages
    tags := tags }

/-- Evaluating a page leaves the settings of the fragments as they are. -/
theorem evaluate_tags (h : e.Serves source config levels) (page : Compiled) (m : Model)
    (w : World) :
    (e.evaluate page m w).2.tags.map Store.settings = config.tagCache := by
  refine converse_induction (I := fun s => s.tags.map Store.settings = config.tagCache)
    ?_ ?_ _ _ h.tags
  · intro s name hs
    rw [s.fetch_tags]
    exact hs
  · intro s key text hs
    have hkeep := Store.map_settings_map
      (fun store => store.settings_insert s.world.now key text) s.tags
    exact hkeep.trans hs

/-- Nor does rendering one. -/
theorem render (h : e.Serves source config levels) (name : String) (m : Model) (w : World) :
    (e.render name m w).2.1.Serves source config levels := by
  have ht := h.template name w
  rcases hr : e.template name w with ⟨r, e', w'⟩
  rw [hr] at ht
  cases r with
  | error err =>
    rw [render_of_error hr]
    exact ht
  | ok page =>
    rw [render_of_ok hr]
    exact ht.settled name (ht.evaluate_tags page m w')

/-- Nor does an invalidation. -/
theorem invalidate (h : e.Serves source config levels) :
    e.invalidate.Serves source config levels :=
  { h with
    pages := (Store.map_settings_map Store.settings_clear _).trans h.pages
    tags := (Store.map_settings_map Store.settings_clear _).trans h.tags }

end Serves

/-! ## What an operation needs -/

/-- If the page of a name has to be compiled and can be, there is room for it among the kept
pages. -/
def PageFits (e : Engine) (name : String) (w : World) : Prop :=
  (e.page? w.now name).isNone → (compiled e.source name (e.source.answer name w)).isOk →
    ∀ store ∈ e.templates, store.HasRoom w.now name

instance (e : Engine) (name : String) (w : World) : Decidable (e.PageFits name w) :=
  inferInstanceAs (Decidable (_ → _ → ∀ store ∈ e.templates, store.HasRoom w.now name))

/-- The questions that come up while a page is evaluated. -/
def asked (e : Engine) (page : Compiled) (m : Model) (w : World) : List Asking :=
  Stencil.asked e.source e.config.strictVariables (Eval.render e.levels page.template m.fields)
    ⟨w, page.loaded, e.tags⟩

end Engine

/-! ## Situations and runs -/

/-- What is done with an engine or happens around it. -/
inductive Operation where
  | render (name : String) (model : Model)
  | template (name : String)
  | invalidate
  /-- Files and recordings change, in whatever way. -/
  | edit (files : FileTree → FileTree) (recordings : List Recording → List Recording)
  /-- Some milliseconds pass. -/
  | wait (ms : Nat)

/-- Whether files and recordings change. -/
def Operation.edits : Operation → Bool
  | render _ _ => false
  | template _ => false
  | invalidate => false
  | edit _ _ => true
  | wait _ => false

instance decidableEqExcept {ε α : Type} [DecidableEq ε] [DecidableEq α] :
    DecidableEq (Except ε α)
  | .error e, .error e' => decidable_of_iff (e = e') ⟨congrArg _, Except.error.inj⟩
  | .ok a, .ok b => decidable_of_iff (a = b) ⟨congrArg _, Except.ok.inj⟩
  | .error _, .ok _ => isFalse nofun
  | .ok _, .error _ => isFalse nofun

/-- What an operation answers. Of a compiled page, callers see its name and its tier. -/
inductive Answer where
  | text (r : Except TemplateError String)
  | page (r : Except TemplateError (String × Tier))
  | done
  deriving DecidableEq

/-- The answer to who asks for a page. -/
def Answer.ofPage (r : Except TemplateError Compiled) : Answer :=
  .page (r.map fun page => (page.name, page.tier))

/-- The answer to an operation and the counts after it. -/
structure Reply where
  answer : Answer
  stats : EngineStats

/-- An engine in its world. -/
structure Situation where
  engine : Engine
  world : World

/-- A world that is one recording of some templates. -/
def World.ofTemplates (templates : List (String × String)) : World :=
  ⟨⟨[]⟩, [⟨templates, [], none⟩], 0⟩

/-- The template text for a tag. -/
def tag (words : String) : String := "\x7b%" ++ words ++ "%\x7d"

/-- The template text for printing an expression. -/
def print (words : String) : String := "\x7b\x7b" ++ words ++ "\x7d\x7d"

/-- The world with other files and recordings. -/
def World.edit (files : FileTree → FileTree) (recordings : List Recording → List Recording)
    (w : World) : World :=
  { w with files := files w.files, recordings := recordings w.recordings }

namespace Situation

/-- The counts of the engine now. -/
def stats (s : Situation) : EngineStats := s.engine.stats s.world.now

/-- The answer to an operation and the situation after it. -/
def perform (s : Situation) : Operation → Answer × Situation
  | .render name m =>
    let (r, e, w) := s.engine.render name m s.world
    (.text r, ⟨e, w⟩)
  | .template name =>
    let (r, e, w) := s.engine.template name s.world
    (.ofPage r, ⟨e, w⟩)
  | .invalidate => (.done, { s with engine := s.engine.invalidate })
  | .edit files recordings => (.done, { s with world := s.world.edit files recordings })
  | .wait ms => (.done, { s with world := s.world.after ms })

/-- The answer to an operation. -/
def answer (s : Situation) (op : Operation) : Answer := (s.perform op).1

/-- The situation after an operation. -/
def after (s : Situation) (op : Operation) : Situation := (s.perform op).2

/-- The situation after a run. -/
def afterAll (s : Situation) : List Operation → Situation
  | [] => s
  | op :: ops => (s.after op).afterAll ops

/-- The answers of a run. -/
def answers (s : Situation) : List Operation → List Answer
  | [] => []
  | op :: ops => s.answer op :: (s.after op).answers ops

/-- The replies of a run. -/
def replies (s : Situation) : List Operation → List Reply
  | [] => []
  | op :: ops => ⟨s.answer op, (s.after op).stats⟩ :: (s.after op).replies ops

/-- What every operation keeps, a run keeps. -/
theorem afterAll_induction {I : Situation → Prop} (step : ∀ s op, I s → I (s.after op)) :
    ∀ (ops : List Operation) {s : Situation}, I s → I (s.afterAll ops)
  | [], _, h => h
  | op :: ops, s, h => afterAll_induction step ops (step s op h)

/-- No operation changes what an engine works with. -/
theorem serves_after {source : Source} {config : CacheConfig} {levels : Nat} (s : Situation)
    (op : Operation) (h : s.engine.Serves source config levels) :
    (s.after op).engine.Serves source config levels := by
  cases op with
  | render name m => exact h.render name m s.world
  | template name => exact h.template name s.world
  | invalidate => exact h.invalidate
  | edit files recordings => exact h
  | wait ms => exact h

/-- No operation changes where an engine gets its pages. -/
theorem source_after (s : Situation) (op : Operation) :
    (s.after op).engine.source = s.engine.source := by
  cases op with
  | render name m =>
    have hsource := s.engine.template_source name s.world
    rcases hr : s.engine.template name s.world with ⟨r, e, w⟩
    rw [hr] at hsource
    simp only [after, perform]
    cases r with
    | error err =>
      rw [Engine.render_of_error hr]
      exact hsource
    | ok page =>
      rw [Engine.render_of_ok hr]
      exact hsource
  | template name => exact s.engine.template_source name s.world
  | invalidate => rfl
  | edit files recordings => rfl
  | wait ms => rfl

/-- A condition holds for every operation of a run, in the situation where it is performed. -/
def Throughout (P : Situation → Operation → Prop) (s : Situation) : List Operation → Prop
  | [] => True
  | op :: ops => P s op ∧ (s.after op).Throughout P ops

instance decidableThroughout {P : Situation → Operation → Prop} [∀ s op, Decidable (P s op)] :
    (s : Situation) → (ops : List Operation) → Decidable (s.Throughout P ops)
  | _, [] => isTrue trivial
  | s, op :: ops => @instDecidableAnd _ _ _ (decidableThroughout (s.after op) ops)

/-- What holds throughout a run holds throughout both parts of it. -/
theorem throughout_append {P : Situation → Operation → Prop} :
    ∀ (before after : List Operation) {s : Situation}, s.Throughout P (before ++ after) ↔
      s.Throughout P before ∧ (s.afterAll before).Throughout P after
  | [], _, _ => by simp [Throughout, afterAll]
  | op :: before, after, s => by
    simp only [List.cons_append, Throughout, afterAll, throughout_append before after, and_assoc]

/-- The operation leaves the answers of the engine's source as they are. -/
def Steady (s : Situation) (op : Operation) : Prop :=
  ∀ name, s.engine.source.answer name (s.after op).world = s.engine.source.answer name s.world

/-- Only an edit can change what a source answers. -/
theorem steady_of_edits_eq_false {op : Operation} (h : op.edits = false) (s : Situation) :
    s.Steady op := by
  have halike : (s.after op).world.Alike s.world := by
    cases op with
    | render name m => exact s.engine.render_alike name m s.world
    | template name => exact s.engine.template_alike name s.world
    | invalidate => exact .refl s.world
    | edit files recordings => cases h
    | wait ms => exact s.world.after_alike ms
  exact fun name => Source.answer_alike name s.engine.source halike

/-- Throughout a run without edits, a source does not change its answers. -/
theorem throughout_steady : ∀ {ops : List Operation}, (∀ op ∈ ops, op.edits = false) →
    ∀ s : Situation, s.Throughout Steady ops
  | [], _, _ => trivial
  | op :: _, h, s =>
    ⟨steady_of_edits_eq_false (h op List.mem_cons_self) s,
      throughout_steady (fun other hmem => h other (List.mem_cons_of_mem op hmem)) (s.after op)⟩

/-- Every fragment that the operation keeps finds room. -/
def TagsFit (s : Situation) : Operation → Prop
  | .render name m =>
    match s.engine.template name s.world with
    | (.ok page, e, w) => ∀ a ∈ e.asked page m w, a.Fits
    | (.error _, _, _) => True
  | .template _ => True
  | .invalidate => True
  | .edit _ _ => True
  | .wait _ => True

instance (s : Situation) : (op : Operation) → Decidable (s.TagsFit op)
  | .render name m =>
    match h : s.engine.template name s.world with
    | (.ok page, e, w) =>
      decidable_of_iff (∀ a ∈ e.asked page m w, a.Fits) (by simp only [TagsFit, h])
    | (.error _, _, _) => isTrue (by simp only [TagsFit, h])
  | .template _ => isTrue trivial
  | .invalidate => isTrue trivial
  | .edit _ _ => isTrue trivial
  | .wait _ => isTrue trivial

/-- Every page that the operation compiles and keeps finds room. -/
def PagesFit (s : Situation) : Operation → Prop
  | .render name _ => s.engine.PageFits name s.world
  | .template name => s.engine.PageFits name s.world
  | .invalidate => True
  | .edit _ _ => True
  | .wait _ => True

instance (s : Situation) : (op : Operation) → Decidable (s.PagesFit op)
  | .render name _ => inferInstanceAs (Decidable (s.engine.PageFits name s.world))
  | .template name => inferInstanceAs (Decidable (s.engine.PageFits name s.world))
  | .invalidate => isTrue trivial
  | .edit _ _ => isTrue trivial
  | .wait _ => isTrue trivial

end Situation

end Stencil
