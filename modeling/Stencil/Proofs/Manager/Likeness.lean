import Stencil.Proofs.Manager.Confinement
import Stencil.Proofs.Source.Likeness

/-!
# Managers for equal themes

Equal themes may spell their directories in different ways. What a manager does is no different under one
spelling than under the other:

> `replies_of_same`: under equal themes the sources have the same tiers, look up and list the same, and
> managers reply the same to every run, but for the spelling of the theme that they show.

A manager for the other spelling is the same manager with another theme and another source
(`respelled`). Since the answers of the source are the same, an operation leaves the two as it found them
(`perform_respelled`), and so does a run. As for the sources alone, no path that is opened on the way may
be too long in one of the spellings only (`LevelThroughout`).
-/

namespace Stencil

namespace Manager

/-- The manager with the theme as another one spells it. -/
def respelled (m : Manager) (b : Theme) : Manager :=
  { m with
    theme := b
    named := m.named.withSource (.forTheme m.site b) }

private theorem invalidate_respelled (m : Manager) (b : Theme) :
    (m.respelled b).invalidate = m.invalidate.respelled b := by
  have hcaching : (m.respelled b).named.isCaching = m.named.isCaching := rfl
  unfold invalidate
  rw [hcaching]
  split
  · rfl
  · rfl

end Manager

namespace Service

/-- The service with the theme as another one spells it. -/
def respelled (s : Service) (b : Theme) : Service := ⟨s.manager.respelled b, s.world⟩

/-- The theme after an operation. -/
def Operation.themeAfter (t : Theme) : Operation → Theme
  | .render _ _ => t
  | .renderString _ _ => t
  | .invalidate => t
  | .updateTheme theme => theme
  | .list => t
  | .edit _ => t
  | .wait _ => t

/-- No path that the operation opens is too long in one of the spellings only. -/
def LevelFor (s : Service) (b : Theme) : Operation → Prop
  | .render name model =>
    ∀ n ∈ s.named.loads (.render name model),
      Level (templateDirectories s.manager.site s.manager.theme)
        (templateDirectories s.manager.site b) n
  | .renderString _ _ => True
  | .invalidate => True
  | .updateTheme _ => True
  | .list =>
    s.world.Listable (templateDirectories s.manager.site s.manager.theme)
      (templateDirectories s.manager.site b)
  | .edit _ => True
  | .wait _ => True

instance (s : Service) (b : Theme) : (op : Operation) → Decidable (s.LevelFor b op)
  | .render name model =>
    inferInstanceAs (Decidable (∀ n ∈ s.named.loads (.render name model), Level _ _ n))
  | .renderString _ _ => isTrue trivial
  | .invalidate => isTrue trivial
  | .updateTheme _ => isTrue trivial
  | .list => inferInstanceAs (Decidable (s.world.Listable _ _))
  | .edit _ => isTrue trivial
  | .wait _ => isTrue trivial

/-- No path that a run opens is too long in one of the spellings only. -/
def LevelThroughout (s : Service) (b : Theme) : List Operation → Prop
  | [] => True
  | op :: ops => s.LevelFor b op ∧ (s.after op).LevelThroughout (op.themeAfter b) ops

instance decidableLevelThroughout :
    (s : Service) → (b : Theme) → (ops : List Operation) → Decidable (s.LevelThroughout b ops)
  | _, _, [] => isTrue trivial
  | s, b, op :: ops =>
    @instDecidableAnd _ _ _ (decidableLevelThroughout (s.after op) (op.themeAfter b) ops)

/-- What is seen of two managers is the same, but for the spelling of the theme. -/
structure View.Alike (v v' : View) : Prop where
  policy : v.policy = v'.policy
  theme : v.theme.same v'.theme = true
  tiers : v.tiers = v'.tiers
  named : v.named = v'.named
  inline : v.inline = v'.inline

/-- The replies are the same, but for the spelling of the theme. -/
structure Reply.Alike (r r' : Reply) : Prop where
  answer : r.answer = r'.answer
  view : r.view.Alike r'.view

section Respelled

variable {site : String} {policy : CachePolicy} {levels : Nat} {victim : Victim} {s : Service}
  {b : Theme}

private theorem theme_after (op : Operation) :
    (s.after op).manager.theme = op.themeAfter s.manager.theme := by
  cases op with
  | invalidate =>
    simp only [after, perform, Manager.invalidate]
    split
    · rfl
    · rfl
  | _ => rfl

/-- Themes stay the same if the same is done to both. -/
private theorem same_themeAfter (h : s.manager.theme.same b = true) (op : Operation) :
    (s.after op).manager.theme.same (op.themeAfter b) = true := by
  rw [theme_after]
  cases op with
  | updateTheme theme => exact theme.same_refl
  | _ => exact h

/-- What is looked up has the same answer under the other spelling. -/
theorem echoes_respelled (hserves : s.manager.Serves site policy levels victim)
    (h : s.manager.theme.same b = true) {name : String} {model : Model}
    (hlevel : s.LevelFor b (.render name model)) :
    s.manager.named.source.Echoes (.forTheme s.manager.site b)
      (s.named.loads (.render name model)) s.world s.world := by
  refine ⟨rfl, fun n hn => ?_⟩
  rw [source_named hserves, Source.forTheme_eq, Source.answer, Source.answer,
    Respelled.load_ofDirectories (respelled_templateDirectories h s.manager.site) (hlevel n hn)]

/-- Where the levels are enough, a page is rendered to the same text under the other spelling. -/
private theorem render_respelled (hserves : s.manager.Serves site policy levels victim)
    (h : s.manager.theme.same b = true) {name : String} {model : Model}
    (hlevel : s.LevelFor b (.render name model)) :
    (s.respelled b).perform (.render name model) =
      (s.answer (.render name model), (s.after (.render name model)).respelled b) := by
  have hstill : (Source.forTheme s.manager.site b).Still := by
    rw [Source.forTheme_eq]
    exact Source.still_ofDirectories _
  have hshown : (Source.forTheme s.manager.site b).displayName name =
      s.manager.named.source.displayName name := by
    rw [source_named hserves]
    rfl
  have hrender := Engine.render_withSource (still_named hserves) hstill hshown model
    (echoes_respelled hserves h hlevel)
  have hworld := Engine.render_world_of_still (still_named hserves) name model s.world
  simp only [perform, respelled, answer, after, Manager.respelled, Manager.render, hrender, hworld]

/-- An operation has the same answer under the other spelling, and leaves the spelling as it is. -/
theorem perform_respelled (hserves : s.manager.Serves site policy levels victim)
    (h : s.manager.theme.same b = true) {op : Operation} (hlevel : s.LevelFor b op) :
    (s.respelled b).perform op = (s.answer op, (s.after op).respelled (op.themeAfter b)) := by
  cases op with
  | render name model => exact render_respelled hserves h hlevel
  | renderString text model => rfl
  | invalidate =>
    have hinvalidate := s.manager.invalidate_respelled b
    rw [perform, respelled, hinvalidate]
    rfl
  | updateTheme theme => rfl
  | list =>
    have hentries := Respelled.entries_ofDirectories
      (respelled_templateDirectories h s.manager.site) hlevel
    rw [← source_named hserves, ← Source.forTheme_eq] at hentries
    have hlist : (s.respelled b).manager.list s.world = s.manager.list s.world := hentries.symm
    rw [answer, perform, perform]
    exact Prod.ext (congrArg Answer.entries hlist) rfl
  | edit files => rfl
  | wait ms => rfl

private theorem view_respelled (hserves : s.manager.Serves site policy levels victim)
    (h : s.manager.theme.same b = true) : s.view.Alike (s.respelled b).view where
  policy := rfl
  theme := h
  tiers := by
    have htiers := Respelled.tiers_ofDirectories (respelled_templateDirectories h s.manager.site)
    rw [← source_named hserves, ← Source.forTheme_eq] at htiers
    exact htiers
  named := rfl
  inline := rfl

/-- A run has the same replies under the other spelling. -/
theorem replies_respelled : ∀ (ops : List Operation) {s : Service} {b : Theme},
    s.manager.Serves site policy levels victim → s.manager.theme.same b = true →
      s.LevelThroughout b ops →
        List.Forall₂ Reply.Alike (s.replies ops) ((s.respelled b).replies ops)
  | [], _, _, _, _, _ => .nil
  | op :: ops, s, b, hserves, h, hlevel => by
    obtain ⟨hfirst, hrest⟩ := hlevel
    have hperform := perform_respelled hserves h hfirst
    have hserves' := serves_after s op hserves
    have hsame := same_themeAfter h op
    rw [replies, replies, answer, answer, after, after, hperform]
    exact .cons ⟨rfl, view_respelled hserves' hsame⟩ (replies_respelled ops hserves' hsame hrest)

end Respelled

/-- Under equal themes, of any depth and over any tree, a site has templates of the same tiers. A name is
looked up with the same result if below each directory it is short enough to be opened in both spellings
or in neither, and the same is listed if each directory that holds a listed file is short enough in both.
Managers that differ in the spelling reply the same to any run of which this is true, and show themes
that are equal. If their stores would drop different entries, nothing must have to be dropped. -/
theorem replies_of_same {a b : Theme} (h : a.same b = true) (site : String) :
    (Source.forTheme site a).tiers = (Source.forTheme site b).tiers ∧
      (∀ w name, Level (templateDirectories site a) (templateDirectories site b) name →
        (Source.forTheme site a).load name w = (Source.forTheme site b).load name w) ∧
      (∀ w, w.Listable (templateDirectories site a) (templateDirectories site b) →
        (Source.forTheme site a).entries w = (Source.forTheme site b).entries w) ∧
      ∀ policy levels victim victim' w ops,
        let s : Service := ⟨.build site policy a levels victim, w⟩
        let t : Service := ⟨.build site policy b levels victim', w⟩
        s.LevelThroughout b ops → (victim = victim' ∨ t.Throughout Fits ops) →
          List.Forall₂ Reply.Alike (s.replies ops) (t.replies ops) := by
  have hspelled := respelled_templateDirectories h site
  rw [Source.forTheme_eq, Source.forTheme_eq]
  refine ⟨Respelled.tiers_ofDirectories hspelled, fun w name => ?_, fun w => ?_, ?_⟩
  · exact Respelled.load_ofDirectories hspelled
  · exact Respelled.entries_ofDirectories hspelled
  · intro policy levels victim victim' w ops s t hlevel hstores
    have hserves : s.manager.Serves site policy levels victim :=
      Manager.serves_build site policy a levels victim
    have hreplies := replies_respelled ops hserves h hlevel
    rcases hstores with rfl | fit
    · exact hreplies
    · -- In between stands the second manager with stores that drop what those of the first one do.
      have hindistinct : Indistinct t (s.respelled b) :=
        .of_build site policy b levels victim' victim w
      rw [hindistinct.replies_eq ops fit]
      exact hreplies

/-- A page includes a part from the directory of the theme, which is reached through a link, and a footer
from that of its parent; then the part changes, and in the end the theme. Both directories are spelled in
two ways. -/
theorem replies_of_same_linked :
    let a : Theme := (Theme.rooted "red" "t").withParent (.rooted "base" "base")
    let b : Theme := (Theme.rooted "red" "t//.").withParent (.rooted "base" "base/./")
    let page := tag "include 'part'" ++ tag "include './footer'"
    let w : World := ⟨⟨[(["site"], .directory), (["site", "templates"], .directory),
      (["site", "templates", "page"], .file page.toUTF8), (["t"], .link "red"),
      (["red"], .directory), (["red", "templates"], .directory),
      (["red", "templates", "part"], .file "x".toUTF8), (["base"], .directory),
      (["base", "templates"], .directory), (["base", "templates", "footer"], .file "y".toUTF8)]⟩,
      [], 0⟩
    let ops : List Operation :=
      [.render "page" ⟨[]⟩, .list, .edit (.putText ["red", "templates", "part"] "z"), .invalidate,
        .render "page" ⟨[]⟩, .updateTheme .empty, .list]
    let s : Service := ⟨.build "site" .production a 9 (fun _ => 0), w⟩
    let t : Service := ⟨.build "site" .production b 9 (fun _ => 1), w⟩
    a.same b = true ∧ s.LevelThroughout b ops ∧ t.Throughout Fits ops ∧
      (s.replies ops).map Reply.answer = [.text (.ok "xy"),
        .entries [⟨"footer", .parentTheme⟩, ⟨"page", .site⟩, ⟨"part", .theme⟩], .done, .done,
        .text (.ok "zy"), .done, .entries [⟨"page", .site⟩]] ∧
      List.Forall₂ Reply.Alike (s.replies ops) (t.replies ops) := by
  intro a b page w ops s t
  have same : a.same b = true := by decide +kernel
  have level : s.LevelThroughout b ops := by decide +kernel
  have fit : t.Throughout Fits ops := by decide +kernel
  have answers : (s.replies ops).map Reply.answer = [.text (.ok "xy"),
      .entries [⟨"footer", .parentTheme⟩, ⟨"page", .site⟩, ⟨"part", .theme⟩], .done, .done,
      .text (.ok "zy"), .done, .entries [⟨"page", .site⟩]] := by
    decide +kernel
  obtain ⟨-, -, -, replies⟩ := replies_of_same same "site"
  exact ⟨same, level, fit, answers,
    replies .production 9 (fun _ => 0) (fun _ => 1) w ops level (Or.inr fit)⟩

end Service

end Stencil
