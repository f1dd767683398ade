import Mathlib.Data.Option.Basic
import Stencil.Proofs.Engine.Memory
import Stencil.Proofs.Engine.Operations
import Stencil.Proofs.Store.Lifetime

/-!
# Kept pages over time

A kept page changes in one way only: what a rendering of it loads is written back to it
(`page?_after_render`). Operations on other pages, edits and time leave it as it is or take it away
(`page?_of_after_of_ne`), and nothing but an operation on the page itself makes an engine keep it
(`page?_after_eq_none`). So an argument about a page that stays kept is an argument about its
own renderings:

> `kept_induction`: what every rendering of a kept page keeps in force is in force as long as the
> page is kept.

`Situation.loads` lists the names that the source is asked for by an operation, and a recording
notes them (`lookups_after`).
-/

namespace Stencil

open Stencil.Grammar

namespace Engine

/-! ## Stores of pages -/

section Stores

variable {e : Engine} {P : Store Compiled → Prop}

/-- What the write of a page that was compiled keeps in force is in force after a page has been
asked for. -/
theorem forall_mem_template (h : ∀ store ∈ e.templates, P store) {name : String} {w : World}
    (hwrite : ∀ page, compiled e.source name (e.source.answer name w) = .ok page →
      ∀ store, P store → P (store.insert w.now name page)) :
    ∀ store ∈ (e.template name w).2.1.templates, P store := by
  cases hp : e.page? w.now name with
  | some page =>
    rw [template_of_hit hp]
    exact h
  | none =>
    rw [template_of_miss hp]
    refine Option.forall_mem_map.mpr fun store hstore => ?_
    cases hcompiled : compiled e.source name (e.source.answer name w) with
    | error err => exact h store hstore
    | ok page => exact hwrite page hcompiled store (h store hstore)

/-- No name has two kept pages. -/
def Distinct (e : Engine) : Prop := ∀ store ∈ e.templates, store.Distinct

private theorem distinct_build (source : Source) (config : CacheConfig) (levels : Nat)
    (victim : Victim) :
    (build source config levels victim).Distinct :=
  Option.forall_mem_map.mpr fun settings _ => Store.distinct_empty settings victim

namespace Distinct

/-- Getting a page keeps no name twice. -/
theorem template (h : e.Distinct) (name : String) (w : World) :
    (e.template name w).2.1.Distinct :=
  forall_mem_template h fun page _ _ hstore => hstore.insert w.now name page

/-- Nor does settling what a rendering has remembered. -/
theorem settled (h : e.Distinct) (name : String) (s : Session) : (e.settled name s).Distinct :=
  Option.forall_mem_map.mpr fun store hstore => (h store hstore).update name _

private theorem render (h : e.Distinct) (name : String) (m : Model) (w : World) :
    (e.render name m w).2.1.Distinct := by
  have ht := h.template name w
  rcases hr : e.template name w with ⟨r, e', w'⟩
  rw [hr] at ht
  cases r with
  | error err =>
    rw [render_of_error hr]
    exact ht
  | ok page =>
    rw [render_of_ok hr]
    exact ht.settled name _

end Distinct

end Stores

/-! ## The page of a name -/

section Page

variable {e : Engine} {now : Nat} {name other : String}

/-- Writing a page leaves the page of another name as it is, or drops it. -/
theorem page?_of_kept (h : e.Distinct) (hne : name ≠ other) {r : Except TemplateError Compiled}
    {page : Compiled} (hpage : (e.kept now other r).page? now name = some page) :
    e.page? now name = some page := by
  obtain ⟨store, hstore, hget⟩ := Option.bind_eq_some_iff.mp hpage
  obtain ⟨old, hold, rfl⟩ := Option.map_eq_some_iff.mp hstore
  refine Option.bind_eq_some_iff.mpr ⟨old, hold, ?_⟩
  cases r with
  | error err => exact hget
  | ok written => exact (h old hold).get?_of_insert hne hget

/-- What an evaluation has loaded is written back to the page that was evaluated. -/
theorem page?_settled (e : Engine) (now : Nat) (name : String) (s : Session) (other : String) :
    (e.settled name s).page? now other =
      if other = name then (e.page? now other).map fun page => { page with loaded := s.loaded }
      else e.page? now other := by
  simp only [page?, settled]
  cases e.templates with
  | none => by_cases h : other = name <;> simp [h]
  | some store =>
    simp only [Option.map_some, Option.bind_some]
    exact store.get?_update now name _ other

/-- If a page is kept after it was asked for, it is the one that was answered. -/
theorem eq_of_template {e' : Engine} {w w' : World} {page kept : Compiled}
    (h : e.template name w = (.ok page, e', w')) (hkept : e'.page? w.now name = some kept) :
    kept = page := by
  cases hp : e.page? w.now name with
  | some old =>
    rw [template_of_hit hp] at h
    cases h
    have hsame : e.page? w.now name = some kept := hkept
    rw [hp] at hsame
    exact (Option.some.inj hsame).symm
  | none =>
    rw [template_of_miss hp] at h
    obtain ⟨hcompiled, he', -⟩ := Prod.mk.inj h |>.imp_right Prod.mk.inj
    rw [← he', hcompiled] at hkept
    obtain ⟨store, hstore, hget⟩ := Option.bind_eq_some_iff.mp hkept
    obtain ⟨old, _, rfl⟩ := Option.map_eq_some_iff.mp hstore
    exact Store.eq_of_get?_insert hget

end Page

/-- Under the name of a page that was asked for, the engine keeps no other than the one that was
answered. -/
theorem value_of_template {e e' : Engine} {w w' : World} {name : String} {page : Compiled}
    (h : e.Distinct) (htemplate : e.template name w = (.ok page, e', w')) :
    ∀ store ∈ e'.templates, ∀ entry ∈ store.entries, entry.key = name → entry.value = page := by
  cases hp : e.page? w.now name with
  | some old =>
    rw [template_of_hit hp] at htemplate
    cases htemplate
    obtain ⟨store, hstore, hget⟩ := Option.bind_eq_some_iff.mp hp
    obtain ⟨found, hfound, hkey, rfl⟩ := Store.exists_of_get? hget
    intro _ hsame entry hmem hname
    rw [Option.mem_unique hsame hstore] at hmem
    rw [(h store hstore).eq_of_key hmem hfound (hname.trans hkey.symm)]
  | none =>
    rw [template_of_miss hp] at htemplate
    obtain ⟨hcompiled, rfl, -⟩ := Prod.mk.inj htemplate |>.imp_right Prod.mk.inj
    refine Option.forall_mem_map.mpr fun store hstore entry hmem hname => ?_
    rw [hcompiled] at hmem
    rcases Store.eq_or_ne_of_mem_insert hmem with rfl | ⟨-, hne⟩
    · rfl
    · exact absurd hname hne

/-- Asking for a page leaves the page of another name as it is, or drops it. -/
theorem page?_of_template {e : Engine} {w : World} {name other : String} (h : e.Distinct)
    (hne : name ≠ other) {page : Compiled}
    (hpage : (e.template other w).2.1.page? w.now name = some page) :
    e.page? w.now name = some page := by
  cases hp : e.page? w.now other with
  | some old =>
    rw [template_of_hit hp] at hpage
    exact hpage
  | none =>
    rw [template_of_miss hp] at hpage
    exact page?_of_kept h hne hpage

/-- Rendering a page leaves the page of another name as it is, or drops it. -/
theorem page?_of_render {e : Engine} {w : World} {name other : String} (h : e.Distinct)
    (hne : name ≠ other) {m : Model} {page : Compiled}
    (hpage : (e.render other m w).2.1.page? w.now name = some page) :
    e.page? w.now name = some page := by
  have htemplate : (e.template other w).2.1.page? w.now name = some page →
      e.page? w.now name = some page := page?_of_template h hne
  rcases hr : e.template other w with ⟨r, e', w'⟩
  rw [hr] at htemplate
  cases r with
  | error err =>
    rw [render_of_error hr] at hpage
    exact htemplate hpage
  | ok rendered =>
    rw [render_of_ok hr, page?_settled, if_neg hne] at hpage
    exact htemplate hpage

/-- Asking for a page takes no time. -/
theorem template_now (e : Engine) (name : String) (w : World) :
    (e.template name w).2.2.now = w.now := by
  cases hp : e.page? w.now name with
  | some page => rw [template_of_hit hp]
  | none =>
    rw [template_of_miss hp]
    exact e.source.load_now name w

/-- A page that cannot be had is not kept. -/
theorem page?_of_template_error {e e' : Engine} {w w' : World} {name : String} {err : TemplateError}
    (h : e.template name w = (.error err, e', w')) : e'.page? w'.now name = none := by
  have hnow := e.template_now name w
  rw [h] at hnow
  cases hp : e.page? w.now name with
  | some old =>
    rw [template_of_hit hp] at h
    cases h
  | none =>
    rw [template_of_miss hp] at h
    obtain ⟨hcompiled, he', -⟩ := Prod.mk.inj h |>.imp_right Prod.mk.inj
    rw [hnow, ← he', hcompiled, page?, kept]
    cases htemplates : e.templates with
    | none => rfl
    | some store =>
      rw [page?, htemplates] at hp
      exact hp

/-- Rendering takes no time. -/
theorem render_now (e : Engine) (name : String) (m : Model) (w : World) :
    (e.render name m w).2.2.now = w.now := by
  have ht := e.template_now name w
  rcases hr : e.template name w with ⟨r, e', w'⟩
  rw [hr] at ht
  cases r with
  | error err =>
    rw [render_of_error hr]
    exact ht
  | ok page =>
    rw [render_of_ok hr]
    exact (converse_now _ _ _ _).trans ht

end Engine

/-- The name of the page that an operation is about. -/
def Operation.page? : Operation → Option String
  | render name _ => some name
  | template name => some name
  | invalidate => none
  | edit _ _ => none
  | wait _ => none

namespace Situation

variable {s : Situation} {name : String}

/-- The page that the engine keeps under a name now. -/
def page? (s : Situation) (name : String) : Option Compiled := s.engine.page? s.world.now name

/-- The questions that come up while an operation is performed. -/
def asked (s : Situation) : Operation → List Asking
  | .render name m =>
    match s.engine.template name s.world with
    | (.ok page, e, w) => e.asked page m w
    | (.error _, _, _) => []
  | .template _ => []
  | .invalidate => []
  | .edit _ _ => []
  | .wait _ => []

/-- The names that the source is asked for while an operation is performed: that of the page, unless
it is kept, and those of the templates that the page does not remember. -/
def loads (s : Situation) (op : Operation) : List String :=
  (op.page?.toList.filter fun name => (s.page? name).isNone) ++
    (s.asked op).filterMap Asking.load?

/-- No operation makes an engine keep two pages under one name. -/
theorem distinct_after (s : Situation) (op : Operation) (h : s.engine.Distinct) :
    (s.after op).engine.Distinct := by
  cases op with
  | render name m => exact h.render name m s.world
  | template name => exact h.template name s.world
  | invalidate => exact Option.forall_mem_map.mpr fun store _ => store.distinct_clear
  | edit files recordings => exact h
  | wait ms => exact h

/-- No engine ever keeps a name twice. -/
theorem distinct_afterAll (source : Source) (config : CacheConfig) (levels : Nat) (victim : Victim)
    (w : World) (past : List Operation) :
    (afterAll ⟨.build source config levels victim, w⟩ past).engine.Distinct :=
  afterAll_induction distinct_after past (Engine.distinct_build source config levels victim)

/-! ## What operations do to a page -/

section After

variable {e : Engine} {w : World} {page kept : Compiled}

/-- What a rendering asks, by the page that it gets. -/
theorem asked_render (h : s.engine.template name s.world = (.ok page, e, w)) (m : Model) :
    s.asked (.render name m) = e.asked page m w := by
  simp only [asked, h]

/-- A page whose rendering succeeds was to be had, and its evaluation came to its end. -/
theorem exists_of_answer_ok {m : Model} {text : String}
    (h : s.answer (.render name m) = .text (.ok text)) :
    ∃ page e w, s.engine.template name s.world = (.ok page, e, w) ∧
      (e.evaluate page m w).1 = .ok text := by
  have hok : (s.engine.render name m s.world).1 = .ok text := Answer.text.inj h
  rcases hr : s.engine.template name s.world with ⟨r, e, w⟩
  cases r with
  | error err =>
    rw [Engine.render_of_error hr] at hok
    cases hok
  | ok page =>
    rw [Engine.render_of_ok hr] at hok
    exact ⟨page, e, w, rfl, Engine.told_eq_ok_iff.mp hok⟩

/-- A page that is kept after it was asked for is the one that was handed out. -/
theorem page?_after_template (h : s.engine.template name s.world = (.ok page, e, w))
    (hkept : (s.after (.template name)).page? name = some kept) : kept = page := by
  have hnow := s.engine.template_now name s.world
  simp only [Situation.page?, after, perform] at hkept
  rw [h] at hnow hkept
  have hnow : w.now = s.world.now := hnow
  rw [hnow] at hkept
  exact Engine.eq_of_template h hkept

/-- A page that is kept after a rendering is the page that was rendered, with what it has loaded
by then. -/
theorem page?_after_render (h : s.engine.template name s.world = (.ok page, e, w)) (m : Model)
    (hkept : (s.after (.render name m)).page? name = some kept) :
    kept = { page with loaded := (e.evaluate page m w).2.loaded } := by
  have hnow := s.engine.render_now name m s.world
  simp only [Situation.page?, after, perform] at hkept
  rw [hnow, Engine.render_of_ok h, Engine.page?_settled, if_pos rfl] at hkept
  obtain ⟨old, hold, rfl⟩ := Option.map_eq_some_iff.mp hkept
  rw [Engine.eq_of_template h hold]

end After

/-- A page that cannot be had is not kept, whether it was to be rendered or only compiled. -/
theorem page?_after_of_error {op : Operation} {err : TemplateError} (habout : op.page? = some name)
    (h : (s.engine.template name s.world).1 = .error err) : (s.after op).page? name = none := by
  rcases htemplate : s.engine.template name s.world with ⟨r, e, w⟩
  rw [htemplate] at h
  have h : r = .error err := h
  subst h
  have hgone := Engine.page?_of_template_error htemplate
  cases op with
  | render _ m =>
    cases habout
    simp only [Situation.page?, after, perform, Engine.render_of_error htemplate]
    exact hgone
  | template _ =>
    cases habout
    simp only [Situation.page?, after, perform, htemplate]
    exact hgone
  | invalidate => cases habout
  | edit files recordings => cases habout
  | wait ms => cases habout

/-- A page that is kept after it was rendered or compiled was to be had. -/
theorem exists_template_of_after {op : Operation} {page : Compiled} (habout : op.page? = some name)
    (hpage : (s.after op).page? name = some page) :
    ∃ new e w, s.engine.template name s.world = (.ok new, e, w) := by
  rcases htemplate : s.engine.template name s.world with ⟨r, e, w⟩
  cases r with
  | error err =>
    rw [page?_after_of_error habout (congrArg Prod.fst htemplate)] at hpage
    cases hpage
  | ok new => exact ⟨new, e, w, rfl⟩

/-- An operation that is not about a page leaves it as it is, or takes it away. -/
theorem page?_of_after_of_ne {op : Operation} {page : Compiled} (h : s.engine.Distinct)
    (hne : op.page? ≠ some name) (hpage : (s.after op).page? name = some page) :
    s.page? name = some page := by
  cases op with
  | render other m =>
    have hname : name ≠ other := fun heq => hne (congrArg some heq.symm)
    simp only [Situation.page?, after, perform] at hpage
    rw [s.engine.render_now other m s.world] at hpage
    exact Engine.page?_of_render h hname hpage
  | template other =>
    have hname : name ≠ other := fun heq => hne (congrArg some heq.symm)
    simp only [Situation.page?, after, perform] at hpage
    rw [s.engine.template_now other s.world] at hpage
    exact Engine.page?_of_template h hname hpage
  | invalidate =>
    obtain ⟨store, hstore, hget⟩ := Option.bind_eq_some_iff.mp hpage
    obtain ⟨old, _, rfl⟩ := Option.map_eq_some_iff.mp hstore
    obtain ⟨entry, hmem, _⟩ := Store.exists_of_get? hget
    cases hmem
  | edit files recordings => exact hpage
  | wait ms =>
    obtain ⟨store, hstore, hget⟩ := Option.bind_eq_some_iff.mp hpage
    have hearlier := (h store hstore).get?_of_later (Nat.le_add_right s.world.now ms) hget
    exact Option.bind_eq_some_iff.mpr ⟨store, hstore, hearlier⟩

/-- An operation that is not about a page does not make the engine keep it. -/
theorem page?_after_eq_none {op : Operation} (h : s.engine.Distinct) (hne : op.page? ≠ some name)
    (hnone : s.page? name = none) : (s.after op).page? name = none := by
  refine Option.eq_none_iff_forall_ne_some.mpr fun page hpage => ?_
  rw [page?_of_after_of_ne h hne hpage] at hnone
  cases hnone

/-- No run makes an engine keep a page that it is not about. -/
theorem page?_afterAll_eq_none : ∀ (ops : List Operation) {s : Situation}, s.engine.Distinct →
    (∀ op ∈ ops, op.page? ≠ some name) → s.page? name = none → (s.afterAll ops).page? name = none
  | [], _, _, _, hnone => hnone
  | op :: ops, s, hdistinct, hne, hnone => by
    obtain ⟨hop, hops⟩ := List.forall_mem_cons.mp hne
    exact page?_afterAll_eq_none ops (distinct_after s op hdistinct) hops
      (page?_after_eq_none hdistinct hop hnone)

/-- A page that is kept is what is answered when it is asked for. -/
theorem template_of_page? {page : Compiled} (h : s.page? name = some page) :
    s.engine.template name s.world =
      (.ok page, { s.engine with cacheHits := s.engine.cacheHits + 1 }, s.world) :=
  Engine.template_of_hit h

/-- The engine still keeps the page after the operation. -/
def Keeps (name : String) (s : Situation) (op : Operation) : Prop :=
  ((s.after op).page? name).isSome = true

instance (name : String) (s : Situation) (op : Operation) : Decidable (s.Keeps name op) :=
  inferInstanceAs (Decidable (_ = true))

/-- What the renderings of a page keep in force as long as the engine keeps the page. The renderings
may be assumed to meet a condition if all operations do. -/
theorem kept_induction {C : Situation → Operation → Prop} {R : Compiled → Prop}
    (step : ∀ (t : Situation) (page : Compiled) (m : Model), t.page? name = some page → R page →
      C t (.render name m) →
        R { page with loaded := (t.engine.evaluate page m t.world).2.loaded }) :
    ∀ (ops : List Operation) {s : Situation} {page : Compiled}, s.engine.Distinct →
      s.page? name = some page → R page → s.Throughout C ops →
        s.Throughout (Keeps name) ops → ∃ page', (s.afterAll ops).page? name = some page' ∧ R page'
  | [], _, page, _, hpage, hR, _, _ => ⟨page, hpage, hR⟩
  | op :: ops, s, page, hdistinct, hpage, hR, hC, hkept => by
    obtain ⟨page', hpage'⟩ := Option.isSome_iff_exists.mp hkept.1
    have hR' : R page' := by
      by_cases habout : op.page? = some name
      · cases op with
        | render other m =>
          cases habout
          rw [page?_after_render (template_of_page? hpage) m hpage']
          exact step s page m hpage hR hC.1
        | template other =>
          cases habout
          rw [page?_after_template (template_of_page? hpage) hpage']
          exact hR
        | invalidate => cases habout
        | edit files recordings => cases habout
        | wait ms => cases habout
      · have hsame := page?_of_after_of_ne hdistinct habout hpage'
        rw [hpage] at hsame
        rw [← Option.some.inj hsame]
        exact hR
    exact kept_induction step ops (distinct_after s op hdistinct) hpage' hR' hC.2 hkept.2

/-! ## What recordings note -/

section Lookups

variable {handle : Nat} {tier : Tier}

/-- A recording that pages come from notes the name of a page that is not kept. -/
theorem lookups_template (hsource : s.engine.source = .recorded handle tier)
    (h : handle < s.world.recordings.length) (name : String) :
    handle < (s.engine.template name s.world).2.2.recordings.length ∧
      ((s.engine.template name s.world).2.2.recording handle).lookups =
        ([name].filter fun other => (s.page? other).isNone) ++
          (s.world.recording handle).lookups := by
  cases hp : s.page? name with
  | some page =>
    rw [template_of_page? hp]
    refine ⟨h, ?_⟩
    simp [hp]
  | none =>
    rw [Engine.template_of_miss hp, hsource]
    refine ⟨?_, ?_⟩
    · simpa only [Source.load, World.modifyRecording, List.length_modify] using h
    · simp [hp, Source.lookups_load_recorded h]

/-- While nothing is edited, the recording that pages come from notes what the source is asked
for. -/
theorem lookups_after (hsource : s.engine.source = .recorded handle tier)
    (h : handle < s.world.recordings.length) {op : Operation} (hop : op.edits = false) :
    ((s.after op).world.recording handle).lookups =
      (s.loads op).reverse ++ (s.world.recording handle).lookups := by
  have hpage : ∀ name : String, ([name].filter fun other => (s.page? other).isNone).reverse =
      [name].filter fun other => (s.page? other).isNone := by
    intro name
    cases hp : s.page? name <;> simp [hp]
  cases op with
  | render name m =>
    obtain ⟨hlength, hlookups⟩ := lookups_template hsource h name
    have hfrom := (s.engine.template_source name s.world).trans hsource
    simp only [after, perform, loads, asked, Operation.page?, Option.toList_some,
      List.reverse_append, hpage, List.append_assoc]
    rw [← hlookups]
    rcases hr : s.engine.template name s.world with ⟨r, e, w⟩
    rw [hr] at hlength hfrom
    cases r with
    | error err =>
      rw [Engine.render_of_error hr]
      rfl
    | ok page =>
      have hfrom : e.source = .recorded handle tier := hfrom
      rw [Engine.render_of_ok hr]
      simp only [Engine.evaluate, Engine.asked, hfrom]
      exact lookups_converse handle tier _ _ hlength
  | template name =>
    simp only [after, perform, loads, asked, Operation.page?, Option.toList_some,
      List.filterMap_nil, List.append_nil, hpage]
    exact (lookups_template hsource h name).2
  | invalidate => rfl
  | edit files recordings => cases hop
  | wait ms => rfl

end Lookups

end Situation

end Stencil
