import Stencil.Proofs.Engine.Retention
import Stencil.Proofs.Source.Noting
import Stencil.Proofs.Store.Exchange

/-!
# Engines that nobody can tell apart

Two engines over one source may have stores that are not the same and still go on alike: an entry
whose time is over is not missed, nor is a store that never finds anything. `Situation.Exchangeable`
says of two situations that their engines have counted the same, are as strict, and have stores that
can take each other's place. Every operation keeps it and has the same answer in both
(`Exchangeable.step`), and so

> `replies_eq`: runs in exchangeable situations have the same replies;
> `lookups_eq`: and the source is asked for the same names, one operation after the other.

Nothing has to find room for that, since the stores drop the same when they are full. The worlds of
the two may differ too, in a way that does not show: the relation between them is left open
(`World.Linked`), and every edit of a run has to respect it (`Operation.Respects`).

The first use of this is at the end: a cache whose entries live for no time, or that has no place
for any, is no different from none (`replies_withoutDegenerate`).
-/

namespace Stencil

open Stencil.Grammar

/-! ## Edits that respect a relation between worlds -/

namespace Operation

/-- If the operation is an edit, it leads from related worlds to related worlds. -/
def Respects (V : World → World → Prop) : Operation → Prop
  | edit files recordings => ∀ {w w' : World}, V w w' →
      V (w.edit files recordings) (w'.edit files recordings)
  | render _ _ => True
  | template _ => True
  | invalidate => True
  | wait _ => True

/-- What an edit makes of recordings does not depend on what they have noted. -/
def Blind (op : Operation) : Prop := op.Respects World.SameUnnoted

/-- Every edit makes equal worlds of equal worlds. -/
theorem respects_eq : ∀ op : Operation, op.Respects Eq
  | edit files recordings => fun h => congrArg (World.edit files recordings) h
  | render _ _ => trivial
  | template _ => trivial
  | invalidate => trivial
  | wait _ => trivial

/-- An edit that changes one recording, in a way that leaves its notes alone or forgets them. -/
theorem blind_modify (files : FileTree → FileTree) (handle : Nat) {f : Recording → Recording}
    (h : ∀ r, (f r).clearLookups = (f r.clearLookups).clearLookups) :
    (edit files (·.modify handle f)).Blind := by
  intro w w' hsame
  have hmodify : ∀ rs : List Recording, (rs.modify handle f).map Recording.clearLookups =
      ((rs.map Recording.clearLookups).modify handle f).map Recording.clearLookups := by
    intro rs
    refine List.ext_getElem? fun i => ?_
    simp only [List.getElem?_map, List.getElem?_modify]
    cases rs[i]? with
    | none => rfl
    | some r =>
      by_cases hi : handle = i
      · simp only [hi, if_true, Option.map_some]
        exact congrArg some (h r)
      · simp [hi, Recording.clearLookups]
  have hsame : w.unnoted = w'.unnoted := hsame
  simp only [World.unnoted, World.mk.injEq] at hsame
  obtain ⟨hfiles, hrecordings, hnow⟩ := hsame
  show World.unnoted _ = World.unnoted _
  simp only [World.unnoted, World.edit]
  rw [hmodify, hmodify w'.recordings, hrecordings, hfiles, hnow]

end Operation

/-! ## Sessions -/

/-- Sessions that remember the same, in related worlds and with exchangeable stores. -/
structure Session.Exchangeable (V : World → World → Prop) (s t : Session) : Prop where
  world : V s.world t.world
  loaded : s.loaded = t.loaded
  tags : Store.Exchangeable s.world.now s.tags t.tags

/-- Exchangeable sessions answer every question alike, whether a fragment finds room or not. -/
theorem Session.coupled_exchangeable {source : Source} {V : World → World → Prop}
    (hV : World.Linked source V) :
    Session.Coupled (fun _ => True) source source (Session.Exchangeable V) where
  fetch := by
    intro s t name h
    cases hl : s.loaded.lookup name with
    | some u =>
      rw [fetch_of_lookup_eq_some hl, fetch_of_lookup_eq_some (h.loaded ▸ hl)]
      exact ⟨rfl, h⟩
    | none =>
      rw [fetch_of_lookup_eq_none hl, fetch_of_lookup_eq_none (h.loaded ▸ hl),
        hV.answer name h.world, h.loaded]
      refine ⟨rfl, hV.load name h.world, rfl, ?_⟩
      show Store.Exchangeable (source.load name s.world).2.now s.tags t.tags
      rw [source.load_now]
      exact h.tags
  fragment := by
    intro s t key h
    simp only [fragment?, ← hV.now h.world]
    exact h.tags.bind_get?_eq key
  keep := by
    intro s t key made h _
    refine ⟨h.world, h.loaded, ?_⟩
    simp only [keep, ← hV.now h.world]
    exact h.tags.insert key made.text

/-- The name that is asked of the source depends on the question and on what is remembered. -/
theorem filterMap_load?_eq {as bs : List Asking}
    (h : List.Forall₂ (fun a b => a.question = b.question ∧ a.session.loaded = b.session.loaded)
      as bs) :
    as.filterMap Asking.load? = bs.filterMap Asking.load? := by
  induction h with
  | nil => rfl
  | @cons a b _ _ hab _ ih =>
    have hload : a.load? = b.load? := by
      simp only [Asking.load?, hab.1, hab.2]
    rw [List.filterMap_cons, List.filterMap_cons, hload, ih]

namespace Situation

/-- The names that the source is asked for during a run, for each operation those that it asks
for. -/
def lookups (s : Situation) : List Operation → List (List String)
  | [] => []
  | op :: ops => s.loads op :: (s.after op).lookups ops

/-- Engines of the same make and the same counts over one source, in related worlds and with
exchangeable stores. -/
structure Exchangeable (V : World → World → Prop) (s t : Situation) : Prop where
  world : V s.world t.world
  source : s.engine.source = t.engine.source
  strict : s.engine.config.strictVariables = t.engine.config.strictVariables
  levels : s.engine.levels = t.engine.levels
  compilations : s.engine.compilations = t.engine.compilations
  cacheHits : s.engine.cacheHits = t.engine.cacheHits
  pages : Store.Exchangeable s.world.now s.engine.templates t.engine.templates
  tags : Store.Exchangeable s.world.now s.engine.tags t.engine.tags

namespace Exchangeable

variable {V : World → World → Prop} {s t : Situation}

/-- An engine can take its own place in a related world. -/
theorem of_world (e : Engine) {w w' : World} (h : V w w') : Exchangeable V ⟨e, w⟩ ⟨e, w'⟩ :=
  ⟨h, rfl, rfl, rfl, rfl, rfl, .refl _ _, .refl _ _⟩

section Step

variable (h : Exchangeable V s t) (hV : World.Linked s.engine.source V)

include h hV

private theorem stats_eq : s.stats = t.stats := by
  have hcount := h.pages.count_eq
  rw [Situation.stats, Situation.stats, Engine.stats, Engine.stats, h.compilations, h.cacheHits,
    ← hV.now h.world, hcount]

private theorem page?_eq (name : String) : s.page? name = t.page? name := by
  rw [page?, page?, Engine.page?, Engine.page?, ← hV.now h.world]
  exact h.pages.bind_get?_eq name

/-- Asked for a page, both give the same page or the same error. -/
theorem template (name : String) :
    (s.engine.template name s.world).1 = (t.engine.template name t.world).1 ∧
      Exchangeable V ⟨(s.engine.template name s.world).2.1, (s.engine.template name s.world).2.2⟩
        ⟨(t.engine.template name t.world).2.1, (t.engine.template name t.world).2.2⟩ := by
  have hpage : s.engine.page? s.world.now name = t.engine.page? t.world.now name :=
    h.page?_eq hV name
  cases hp : s.engine.page? s.world.now name with
  | some page =>
    rw [Engine.template_of_hit hp, Engine.template_of_hit (hpage ▸ hp)]
    exact ⟨rfl, { h with cacheHits := congrArg (· + 1) h.cacheHits }⟩
  | none =>
    rw [Engine.template_of_miss hp, Engine.template_of_miss (hpage ▸ hp), ← h.source,
      ← hV.answer name h.world, ← hV.now h.world]
    refine ⟨rfl, ?_⟩
    have hnow := s.engine.source.load_now name s.world
    refine { h with
      world := hV.load name h.world
      compilations := congrArg (· + _) h.compilations
      pages := ?_
      tags := ?_ }
    · show Store.Exchangeable (s.engine.source.load name s.world).2.now _ _
      rw [hnow]
      cases Engine.compiled s.engine.source name (s.engine.source.answer name s.world) with
      | error err =>
        have hid : ∀ templates : Option (Store Compiled),
            templates.map (Engine.written s.world.now name (.error err)) = templates := by
          intro templates
          cases templates <;> rfl
        simp only [Engine.kept, hid]
        exact h.pages
      | ok page => exact h.pages.insert name page
    · show Store.Exchangeable (s.engine.source.load name s.world).2.now _ _
      rw [hnow]
      exact h.tags

/-- Both put the same questions, in exchangeable sessions. -/
theorem asked (page : Compiled) (m : Model) :
    List.Forall₂ (fun a b => a.question = b.question ∧ a.session.Exchangeable V b.session)
      (s.engine.asked page m s.world) (t.engine.asked page m t.world) := by
  have hstart : Session.Exchangeable V ⟨s.world, page.loaded, s.engine.tags⟩
      ⟨t.world, page.loaded, t.engine.tags⟩ := ⟨h.world, rfl, h.tags⟩
  simp only [Engine.asked]
  rw [← h.source, ← h.strict, ← h.levels]
  exact asked_of_coupled (Session.coupled_exchangeable hV) _ _ hstart fun _ _ => trivial

/-- Evaluations of the same page have the same outcome and leave exchangeable sessions. -/
theorem evaluate (page : Compiled) (m : Model) :
    (s.engine.evaluate page m s.world).1 = (t.engine.evaluate page m t.world).1 ∧
      (s.engine.evaluate page m s.world).2.Exchangeable V
        (t.engine.evaluate page m t.world).2 := by
  have hstart : Session.Exchangeable V ⟨s.world, page.loaded, s.engine.tags⟩
      ⟨t.world, page.loaded, t.engine.tags⟩ := ⟨h.world, rfl, h.tags⟩
  simp only [Engine.evaluate]
  rw [← h.source, ← h.strict, ← h.levels]
  exact converse_eq_of_coupled (Session.coupled_exchangeable hV) _ _ hstart fun _ _ => trivial

/-- Renderings have the same outcome and leave exchangeable situations. -/
private theorem render (name : String) (m : Model) :
    (s.engine.render name m s.world).1 = (t.engine.render name m t.world).1 ∧
      Exchangeable V ⟨(s.engine.render name m s.world).2.1, (s.engine.render name m s.world).2.2⟩
        ⟨(t.engine.render name m t.world).2.1, (t.engine.render name m t.world).2.2⟩ := by
  obtain ⟨hr, hafter⟩ := h.template hV name
  have hsource := s.engine.template_source name s.world
  rcases hs : s.engine.template name s.world with ⟨r, e, w⟩
  rcases ht : t.engine.template name t.world with ⟨r', e', w'⟩
  rw [hs, ht] at hr hafter
  rw [hs] at hsource
  have hr : r = r' := hr
  have hafter : Exchangeable V ⟨e, w⟩ ⟨e', w'⟩ := hafter
  subst hr
  cases r with
  | error err =>
    rw [Engine.render_of_error hs, Engine.render_of_error ht]
    exact ⟨rfl, hafter⟩
  | ok page =>
    rw [Engine.render_of_ok hs, Engine.render_of_ok ht]
    have hlinked : World.Linked e.source V := by
      have hsource : e.source = s.engine.source := hsource
      rw [hsource]
      exact hV
    obtain ⟨heq, hsession⟩ := hafter.evaluate hlinked page m
    have hnow : (e.evaluate page m w).2.world.now = w.now := converse_now _ _ _ _
    refine ⟨?_, { hafter with world := hsession.world, pages := ?_, tags := hsession.tags }⟩
    · rw [← Engine.told_congr hafter.source hafter.strict name]
      exact congrArg (e.told name) heq
    · show Store.Exchangeable (e.evaluate page m w).2.world.now _ _
      simp only [Engine.settled, hsession.loaded, hnow]
      exact hafter.pages.update name _

/-- An operation asks the source for the same names in both. -/
theorem loads_eq (op : Operation) : s.loads op = t.loads op := by
  have hasked : (s.asked op).filterMap Asking.load? = (t.asked op).filterMap Asking.load? := by
    cases op with
    | render name m =>
      obtain ⟨hr, hafter⟩ := h.template hV name
      have hsource := s.engine.template_source name s.world
      simp only [Situation.asked]
      rcases hs : s.engine.template name s.world with ⟨r, e, w⟩
      rcases ht : t.engine.template name t.world with ⟨r', e', w'⟩
      rw [hs, ht] at hr hafter
      rw [hs] at hsource
      have hr : r = r' := hr
      subst hr
      cases r with
      | error err => rfl
      | ok page =>
        have hlinked : World.Linked e.source V := by
          have hsource : e.source = s.engine.source := hsource
          rw [hsource]
          exact hV
        exact filterMap_load?_eq ((hafter.asked hlinked page m).imp fun _ _ hab =>
          ⟨hab.1, hab.2.loaded⟩)
    | template name => rfl
    | invalidate => rfl
    | edit files recordings => rfl
    | wait ms => rfl
  have hpage : ∀ name, s.page? name = t.page? name := h.page?_eq hV
  simp only [loads, hasked, hpage]

/-- Nothing that is done tells the two apart. -/
theorem step {op : Operation} (hop : op.Respects V) :
    s.answer op = t.answer op ∧ Exchangeable V (s.after op) (t.after op) := by
  cases op with
  | render name m =>
    obtain ⟨heq, hafter⟩ := h.render hV name m
    exact ⟨congrArg Answer.text heq, hafter⟩
  | template name =>
    obtain ⟨heq, hafter⟩ := h.template hV name
    exact ⟨congrArg Answer.ofPage heq, hafter⟩
  | invalidate => exact ⟨rfl, { h with pages := h.pages.clear, tags := h.tags.clear }⟩
  | edit files recordings => exact ⟨rfl, { h with world := hop h.world }⟩
  | wait ms =>
    have hle : s.world.now ≤ (s.world.after ms).now := Nat.le_add_right _ _
    exact ⟨rfl, { h with
      world := hV.after ms h.world
      pages := h.pages.later hle
      tags := h.tags.later hle }⟩

omit h hV in
/-- No operation changes the source. -/
private theorem linked_after (hV : World.Linked s.engine.source V) (op : Operation) :
    World.Linked (s.after op).engine.source V := by
  rw [source_after]
  exact hV

end Step

/-- Runs of exchangeable situations have the same replies. -/
theorem replies_eq : ∀ (ops : List Operation) {s t : Situation}, Exchangeable V s t →
    World.Linked s.engine.source V → (∀ op ∈ ops, op.Respects V) → s.replies ops = t.replies ops
  | [], _, _, _, _, _ => rfl
  | op :: ops, s, t, h, hV, hops => by
    obtain ⟨hop, hrest⟩ := List.forall_mem_cons.mp hops
    obtain ⟨heq, hafter⟩ := h.step hV hop
    have hlinked := linked_after hV op
    rw [replies, replies, heq, hafter.stats_eq hlinked, replies_eq ops hafter hlinked hrest]

/-- The source is asked for the same names. -/
theorem lookups_eq : ∀ (ops : List Operation) {s t : Situation}, Exchangeable V s t →
    World.Linked s.engine.source V → (∀ op ∈ ops, op.Respects V) → s.lookups ops = t.lookups ops
  | [], _, _, _, _, _ => rfl
  | op :: ops, s, t, h, hV, hops => by
    obtain ⟨hop, hrest⟩ := List.forall_mem_cons.mp hops
    rw [lookups, lookups, h.loads_eq hV op,
      lookups_eq ops (h.step hV hop).2 (linked_after hV op) hrest]

/-- After a run the situations are still exchangeable. -/
theorem afterAll : ∀ (ops : List Operation) {s t : Situation}, Exchangeable V s t →
    World.Linked s.engine.source V → (∀ op ∈ ops, op.Respects V) →
      Exchangeable V (s.afterAll ops) (t.afterAll ops)
  | [], _, _, h, _, _ => h
  | op :: ops, s, t, h, hV, hops => by
    obtain ⟨hop, hrest⟩ := List.forall_mem_cons.mp hops
    exact afterAll ops (h.step hV hop).2 (linked_after hV op) hrest

end Exchangeable

end Situation

/-! ## Caches that never find anything -/

/-- The configuration without the caches that never find anything. -/
def CacheConfig.withoutDegenerate (c : CacheConfig) : CacheConfig :=
  { c with
    templateCache := c.templateCache.filter fun settings => !decide settings.IsDegenerate
    tagCache := c.tagCache.filter fun settings => !decide settings.IsDegenerate }

/-- An engine that is built with caches in which nothing lives or nothing has a place works like one
that is built without these caches: in any run it has the same replies, asks the source for the same
names, and leaves the same world. -/
theorem Situation.replies_withoutDegenerate (source : Source) (config : CacheConfig) (levels : Nat)
    (victim : Victim) (w : World) (ops : List Operation) :
    let s : Situation := ⟨.build source config levels victim, w⟩
    let t : Situation := ⟨.build source config.withoutDegenerate levels victim, w⟩
    s.replies ops = t.replies ops ∧ s.lookups ops = t.lookups ops ∧
      (s.afterAll ops).world = (t.afterAll ops).world := by
  intro s t
  have hlinked : World.Linked s.engine.source Eq := World.linked_eq source
  have hops : ∀ op ∈ ops, op.Respects Eq := fun op _ => op.respects_eq
  have h : Exchangeable Eq s t :=
    { world := rfl
      source := rfl
      strict := rfl
      levels := rfl
      compilations := rfl
      cacheHits := rfl
      pages := .filter_empty w.now config.templateCache victim
      tags := .filter_empty w.now config.tagCache victim }
  exact ⟨h.replies_eq ops hlinked hops, h.lookups_eq ops hlinked hops,
    (h.afterAll ops hlinked hops).world⟩

/-- Production settings without any time to live are no caches at all. -/
example : (CacheConfig.production.withTimeToLive 0).withoutDegenerate = .plain := by decide

end Stencil
