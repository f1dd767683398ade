import Stencil.Proofs.Source.Directories

/-!
# The tiers of a theme

The templates of a site come from the site, then from the theme unless it is empty, then from its
parent if it has one. These are two conditions of their own (`Theme.tiersInOrder`,
`Theme.answerInOrder`), and an empty theme can have a parent. The sources of a theme take the second
condition only under the first:

> `Built.lookup_order`: for a theme that is not empty the order is this one, for an empty theme
> there are only the templates of the site, so the tiers are as said exactly if no empty theme has
> a parent.

The parent of a built theme is never empty (`Built.isEmpty_of_parent`), and the parent of a parent
makes no difference.
-/

namespace Stencil

/-- The first of several answers that does not lack the name. -/
def firstTold : List (Except String (Option Loaded)) → Except String (Option Loaded)
  | [] => .ok none
  | .ok none :: rest => firstTold rest
  | told :: _ => told

private theorem firstTold_singleton (told : Except String (Option Loaded)) :
    firstTold [told] = told := by
  rcases told with reason | _ | body <;> rfl

/-- One more that lacks the name makes no difference. -/
theorem firstTold_append_lacking : ∀ answers : List (Except String (Option Loaded)),
    firstTold (answers ++ [.ok none]) = firstTold answers
  | [] => rfl
  | .error _ :: _ => rfl
  | .ok none :: rest => firstTold_append_lacking rest
  | .ok (some _) :: _ => rfl

private theorem Source.answer_chain_eq_firstTold (name : String) (w : World) :
    ∀ sources : List Source,
    (chain sources).answer name w = firstTold (sources.map fun s => s.answer name w)
  | [] => rfl
  | s :: rest => by
    rw [List.map_cons]
    by_cases hlacking : s.answer name w = .ok none
    · rw [answer_chain_of_lacking hlacking, hlacking, firstTold,
        answer_chain_eq_firstTold name w rest]
    · rw [answer_chain_of_telling hlacking, firstTold]
      exact hlacking

namespace Theme

/-- A theme made from the empty theme and themes with a directory by giving themes parents. -/
inductive Built : Theme → Prop where
  | empty : Built .empty
  | rooted (name root : String) : Built (.rooted name root)
  | withParent {t p : Theme} (ht : Built t) (hp : Built p) : Built (t.withParent p)

/-- The tiers of a site under a theme: the site, the theme unless it is empty, and its parent if it
has one. -/
def tiersInOrder (t : Theme) : List Tier :=
  .site :: (if t.isEmpty then [] else [.theme]) ++ if t.parent.isSome then [.parentTheme] else []

/-- What the templates of a theme answer; a theme without a directory lacks every name. -/
def told (tier : Tier) (name : String) (w : World) (t : Theme) : Except String (Option Loaded) :=
  match t.root with
  | some root => loadFile (Path.join root "templates") tier name w.files
  | none => .ok none

/-- What the templates of a site answer. -/
def toldBySite (site name : String) (w : World) : Except String (Option Loaded) :=
  loadFile (siteResolve site siteTemplates) .site name w.files

/-- The answer of the first that does not lack the name: the site, the theme, its parent. -/
def answerInOrder (site : String) (t : Theme) (name : String) (w : World) :
    Except String (Option Loaded) :=
  firstTold [toldBySite site name w, t.told .theme name w,
    (t.parent.map (told .parentTheme name w)).getD (.ok none)]

/-- No built theme has an empty parent. -/
theorem Built.isEmpty_of_parent {t : Theme} (h : t.Built) : ∀ p ∈ t.parent, p.isEmpty = false := by
  induction h with
  | empty => exact nofun
  | rooted => exact nofun
  | @withParent t p ht hp =>
    intro q hq
    rw [Theme.withParent] at hq
    split at hq
    next => cases hq
    next hempty =>
      cases hq
      exact eq_false_of_ne_true hempty

/-- Of a parent, only its own directory counts. -/
theorem sources_withParent (t p : Theme) :
    (t.withParent p).sources =
      if t.isEmpty then []
      else
        (t.templatesPath.map fun path => Source.files path .theme).toList ++
          (p.templatesPath.map fun path => Source.files path .parentTheme).toList := by
  have hparent : (t.withParent p).parent.bind templatesPath = p.templatesPath := by
    rw [Theme.withParent]
    cases hroot : p.root <;> simp [isEmpty, templatesPath, hroot]
  rw [sources, hparent]
  rfl

/-- The parent of a parent makes no difference. -/
theorem forTheme_withParent_withParent (site : String) (t p g : Theme) :
    Source.forTheme site (t.withParent (p.withParent g)) =
      Source.forTheme site (t.withParent p) := by
  rw [Source.forTheme, Source.forTheme, sources_withParent, sources_withParent]
  rfl

/-- The sources of a site under a built theme: those of the site alone, or with those of the theme,
or with those of the theme and of its parent. -/
theorem Built.forTheme_cases {t : Theme} (h : t.Built) (site : String) :
    let own := Source.files (siteResolve site siteTemplates) .site
    (t.root = none ∧ Source.forTheme site t = .chain [own]) ∨
      (∃ root, t.root = some root ∧ t.parent = none ∧
        Source.forTheme site t = .chain [own, .files (Path.join root "templates") .theme]) ∨
      ∃ root p root', t.root = some root ∧ t.parent = some p ∧ p.root = some root' ∧
        Source.forTheme site t = .chain [own, .files (Path.join root "templates") .theme,
          .files (Path.join root' "templates") .parentTheme] := by
  intro own
  cases hroot : t.root with
  | none => exact Or.inl ⟨rfl, by simp [Source.forTheme, sources, isEmpty, hroot, own]⟩
  | some root =>
    cases hparent : t.parent with
    | none =>
      refine Or.inr (Or.inl ⟨root, rfl, rfl, ?_⟩)
      simp [Source.forTheme, sources, isEmpty, templatesPath, hroot, hparent, own]
    | some p =>
      have hp := h.isEmpty_of_parent p hparent
      obtain ⟨root', hroot'⟩ := Option.isSome_iff_exists.mp (Option.isNone_eq_false_iff.mp hp)
      refine Or.inr (Or.inr ⟨root, p, root', rfl, rfl, hroot', ?_⟩)
      simp [Source.forTheme, sources, isEmpty, templatesPath, hroot, hparent, hroot', own]

private theorem Built.tiers_forTheme {t : Theme} (h : t.Built) (site : String) :
    (Source.forTheme site t).tiers = if t.isEmpty then [.site] else t.tiersInOrder := by
  obtain ⟨hroot, hsource⟩ | ⟨root, hroot, hparent, hsource⟩ |
    ⟨root, p, root', hroot, hparent, -, hsource⟩ := h.forTheme_cases site
  · rw [hsource, isEmpty, hroot]
    rfl
  · rw [hsource, tiersInOrder, isEmpty, hroot, hparent]
    rfl
  · rw [hsource, tiersInOrder, isEmpty, hroot, hparent]
    rfl

/-- The answer is that of the directories of the lineage, in its order. -/
private theorem Built.answer_forTheme {t : Theme} (h : t.Built) (site name : String) (w : World) :
    (Source.forTheme site t).answer name w =
      if t.isEmpty then toldBySite site name w else t.answerInOrder site name w := by
  obtain ⟨hroot, hsource⟩ | ⟨root, hroot, hparent, hsource⟩ |
    ⟨root, p, root', hroot, hparent, hroot', hsource⟩ := h.forTheme_cases site
  · rw [hsource, isEmpty, hroot, Source.answer_chain_eq_firstTold]
    exact firstTold_singleton _
  · rw [hsource, isEmpty, hroot, Source.answer_chain_eq_firstTold, answerInOrder, told, hroot,
      hparent]
    exact (firstTold_append_lacking [_, _]).symm
  · rw [hsource, isEmpty, hroot, Source.answer_chain_eq_firstTold, answerInOrder, told, hroot,
      hparent]
    simp only [Option.map_some, Option.getD_some, told, hroot']
    rfl

/-- An empty theme without a parent answers nothing. -/
theorem answerInOrder_of_empty {t : Theme} (hempty : t.isEmpty = true) (hparent : t.parent = none)
    (site name : String) (w : World) : t.answerInOrder site name w = toldBySite site name w := by
  have hroot : t.root = none := Option.isNone_iff_eq_none.mp hempty
  rw [answerInOrder, told, hroot, hparent]
  calc firstTold [toldBySite site name w, .ok none, .ok none]
      = firstTold [toldBySite site name w, .ok none] := firstTold_append_lacking [_, _]
    _ = firstTold [toldBySite site name w] := firstTold_append_lacking [_]
    _ = toldBySite site name w := firstTold_singleton _

/-- For a built theme that is not empty, the templates of a site come from the site, the theme and
its parent, in this order. For an empty theme they come from the site alone, so the tiers are as in
order exactly if an empty theme has no parent. No built theme has an empty parent, and the parent of
a parent makes no difference. -/
theorem Built.lookup_order {t : Theme} (h : t.Built) (site : String) :
    (Source.forTheme site t).tiers = (if t.isEmpty then [.site] else t.tiersInOrder) ∧
      ((Source.forTheme site t).tiers = t.tiersInOrder ↔ (t.isEmpty = true → t.parent = none)) ∧
      (∀ p ∈ t.parent, p.isEmpty = false) ∧
      (∀ name w, (Source.forTheme site t).answer name w =
        if t.isEmpty then toldBySite site name w else t.answerInOrder site name w) ∧
      ((t.isEmpty = true → t.parent = none) → ∀ name w,
        (Source.forTheme site t).answer name w = t.answerInOrder site name w) ∧
      ∀ p g, Source.forTheme site (t.withParent (p.withParent g)) =
        Source.forTheme site (t.withParent p) := by
  refine ⟨h.tiers_forTheme site, ?_, h.isEmpty_of_parent, h.answer_forTheme site, ?_,
    forTheme_withParent_withParent site t⟩
  · rw [h.tiers_forTheme, tiersInOrder]
    cases hempty : t.isEmpty with
    | false => simp
    | true => cases t.parent <;> simp
  · intro hparent name w
    rw [h.answer_forTheme]
    split
    next hempty => rw [answerInOrder_of_empty hempty (hparent hempty)]
    next => rfl

/-- A theme whose parent has a parent again. Only this one has the template, and it is not asked. -/
theorem Built.lookup_order_of_grandparent :
    let theme : Theme := (Theme.rooted "red" "red").withParent
      ((Theme.rooted "blue" "blue").withParent (.rooted "old" "old"))
    let w : World := ⟨⟨[(["old"], .directory), (["old", "templates"], .directory),
      (["old", "templates", "a"], .file "x".toUTF8)]⟩, [], 0⟩
    theme.Built ∧ (Source.forTheme "site" theme).tiers = [.site, .theme, .parentTheme] ∧
      (Source.forTheme "site" theme).answer "a" w = theme.answerInOrder "site" "a" w ∧
        theme.answerInOrder "site" "a" w = .ok none := by
  intro theme w
  have built : theme.Built := .withParent (.rooted _ _) (.withParent (.rooted _ _) (.rooted _ _))
  obtain ⟨tiers, -, -, answer, -, -⟩ := built.lookup_order "site"
  exact ⟨built, tiers, answer "a" w, by decide +kernel⟩

/-- An empty theme with a parent has the tiers of the site alone, and a template of the parent is
not found. -/
theorem not_in_order_of_empty :
    let theme : Theme := Theme.empty.withParent (.rooted "base" "base")
    let w : World := ⟨⟨[(["base"], .directory), (["base", "templates"], .directory),
      (["base", "templates", "a.html"], .file "A".toUTF8)]⟩, [], 0⟩
    theme.Built ∧ theme.isEmpty = true ∧ theme.parent.isSome = true ∧
      (Source.forTheme "site" theme).tiers = [.site] ∧
        theme.tiersInOrder = [.site, .parentTheme] ∧
          (Source.forTheme "site" theme).answer "a.html" w = .ok none ∧
            theme.answerInOrder "site" "a.html" w = .ok (some ⟨"a.html", "A", .parentTheme⟩) := by
  intro theme w
  exact ⟨.withParent .empty (.rooted _ _), rfl, rfl, rfl, rfl, by decide +kernel, by decide +kernel⟩

end Theme

end Stencil
