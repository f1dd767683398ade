import Stencil.Proofs.FileTree.Spelling
import Stencil.Proofs.Grammar.Bodies
import Stencil.Proofs.Manager.Confinement
import Stencil.Proofs.Source.Shadowing

/-!
# Overridden files make no difference

Where the site, or a theme before its parent, has a template of its own, the file at the same place
behind it is inert:

> `replies_of_shadow`: two managers of the same make, used in the same way over trees that differ, as
> long as something is done, at most in files at a place below template directories behind one that
> holds a file there, reply the same.

The pages that are kept do not matter for this. Whatever is kept, an operation sees the world through
the names that it has looked up and through the listing (`Overlooks`), and neither tells the worlds
apart (`World.Shadow.answer_ofDirectories`, `World.Shadow.entries_ofDirectories`).

One thing about lengths is needed (`Reaches`). A path leads nowhere if it is too long, and how long it
is depends on the directory. A name can spell the place with so many dots that it is too long below
the directory in front and not below the one behind, and then it leads to the file behind
(`replies_of_long_spelling`). A listing, in turn, does not come to the place where a directory on the
way has a path that is too long to be opened, and then it goes on behind
(`replies_of_far_directory`).
-/

namespace Stencil

namespace Service

/-- The trees differ at most in files at a place below template directories of the first service
that come after one which holds a file there. -/
def Shadows (place : List String) (s t : Service) : Prop :=
  World.Shadow (templateDirectories s.manager.site s.manager.theme) place s.world t.world

/-- The names that an operation has looked up are short enough to lead to the place in front if they
are so behind, and a listing comes to it in front if it does so behind. -/
def Reaches (place : List String) (s : Service) : Operation → Prop
  | .render name model =>
    ∀ n ∈ s.named.loads (.render name model),
      World.Reaches (templateDirectories s.manager.site s.manager.theme) place s.world n
  | .renderString _ _ => True
  | .invalidate => True
  | .updateTheme _ => True
  | .list => World.Lists (templateDirectories s.manager.site s.manager.theme) place s.world
  | .edit _ => True
  | .wait _ => True

instance (place : List String) (s : Service) : (op : Operation) → Decidable (s.Reaches place op)
  | .render name model =>
    inferInstanceAs (Decidable (∀ n ∈ s.named.loads (.render name model), _))
  | .renderString _ _ => isTrue trivial
  | .invalidate => isTrue trivial
  | .updateTheme _ => isTrue trivial
  | .list =>
    inferInstanceAs
      (Decidable (World.Lists (templateDirectories s.manager.site s.manager.theme) place s.world))
  | .edit _ => isTrue trivial
  | .wait _ => isTrue trivial

/-- No operation sees what is behind. -/
theorem overlooks_of_shadows {site : String} {policy : CachePolicy} {levels : Nat} {victim : Victim}
    {place : List String} {s t : Service} {op : Operation}
    (hserves : s.manager.Serves site policy levels victim) (h : s.Shadows place t)
    (hreach : s.Reaches place op) : s.Overlooks t.world op := by
  cases op with
  | render name model =>
    intro n hn
    rw [source_named hserves]
    exact h.answer_ofDirectories (hreach n hn)
  | list =>
    rw [Overlooks, Manager.list, Manager.list, source_named hserves]
    exact h.entries_ofDirectories hreach
  | _ => exact trivial

/-- Managers for the same site, policy and theme reply the same to runs of the same operations over
two trees that differ, whenever something is done, at most in the files at a place below template
directories which come after one that holds a file there. The names that are looked up must not be
too long for all those in front and short enough behind, and a listing must not be kept from the place
in front, and not behind, by directories that are too long to be opened. If the stores of the managers
would drop different entries, nothing must have to be dropped in one of the runs. -/
theorem replies_of_shadow (site : String) (policy : CachePolicy) (theme : Theme) (levels : Nat)
    (victim victim' : Victim) (w w' : World) (place : List String) (ops ops' : List Operation) :
    let s : Service := ⟨.build site policy theme levels victim, w⟩
    let t : Service := ⟨.build site policy theme levels victim', w'⟩
    w.now = w'.now → List.Forall₂ Operation.Twin ops ops' →
      Alongside (Shadows place) s t ops ops' → s.Throughout (Reaches place) ops →
        (victim = victim' ∨ t.Throughout Fits ops') → s.replies ops = t.replies ops' := by
  intro s t hnow htwins hshadows hreach hstores
  have hserves : s.manager.Serves site policy levels victim :=
    Manager.serves_build site policy theme levels victim
  rcases hstores with rfl | fit
  · have hmirrored : Mirrored s t := ⟨rfl, hnow⟩
    exact hmirrored.replies_eq_of_overlooks overlooks_of_shadows htwins hserves hshadows hreach
  · -- In between stands the first manager in the world of the second one.
    have hindistinct : Indistinct t ⟨s.manager, w'⟩ :=
      .of_build site policy theme levels victim' victim w'
    have hmirrored : Mirrored s ⟨s.manager, w'⟩ := ⟨rfl, hnow⟩
    have hshadows' : Alongside (Shadows place) s ⟨s.manager, w'⟩ ops ops' :=
      .of_indistinct_of (fun _ _ _ hworld h => by rwa [Shadows, ← hworld]) hindistinct fit hshadows
    rw [hmirrored.replies_eq_of_overlooks overlooks_of_shadows htwins hserves hshadows' hreach,
      hindistinct.replies_eq ops' fit]

/-- A page of the theme includes a partial of the theme and has it kept as a fragment, each time
under another spelling. The parent of the theme has a partial at the same place, with different
texts on the two sides, and after a while only on one of them. -/
theorem replies_of_shadow_partial :
    let page := tag "include './a//part'" ++ print "cache('k', 'a/./part')"
    let theme : Theme := (Theme.rooted "red" "red").withParent (.rooted "blue" "blue")
    let w (behind : String) : World :=
      .ofFiles [(["red", "templates", "page"], page), (["red", "templates", "a", "part"], "x"),
        (["blue", "templates", "a", "part"], behind)]
    let drop (files : FileTree) : FileTree := files.remove ["blue", "templates", "a", "part"]
    let ops : List Operation :=
      [.render "page" ⟨[]⟩, .edit id, .invalidate, .render "page" ⟨[]⟩, .list]
    let ops' : List Operation :=
      [.render "page" ⟨[]⟩, .edit drop, .invalidate, .render "page" ⟨[]⟩, .list]
    let s : Service := ⟨.build "site" .production theme 9 (fun _ => 0), w "y"⟩
    let t : Service := ⟨.build "site" .production theme 9 (fun _ => 1), w "z"⟩
    Alongside (Shadows ["a", "part"]) s t ops ops' ∧ s.Throughout (Reaches ["a", "part"]) ops ∧
      t.Throughout Fits ops' ∧ s.replies ops = t.replies ops' := by
  intro page theme w drop ops ops' s t
  have twins : List.Forall₂ Operation.Twin ops ops' :=
    .cons (.same _) (.cons (.edits _ _) (.cons (.same _) (.cons (.same _) (.cons (.same _) .nil))))
  have shadows : Alongside (Shadows ["a", "part"]) s t ops ops' :=
    ⟨.of_nodes (by decide +kernel), .of_nodes (by decide +kernel), .of_nodes (by decide +kernel),
      .of_nodes (by decide +kernel), .of_nodes (by decide +kernel), trivial⟩
  have reach : s.Throughout (Reaches ["a", "part"]) ops := by decide +kernel
  have fit : t.Throughout Fits ops' := by decide +kernel
  exact ⟨shadows, reach, fit, replies_of_shadow "site" .production theme 9 (fun _ => 0) (fun _ => 1)
    (w "y") (w "z") ["a", "part"] ops ops' rfl twins shadows reach (Or.inr fit)⟩

end Service

/-! ## Spellings that are too long -/

namespace Source

/-- A directory below which a name is too long is passed over. -/
theorem answer_ofDirectories_of_long {root name : String}
    (hlong : FileTree.isPath (Path.join root name) = false) (tier : Tier)
    (directories : List (String × Tier)) (w : World) :
    (ofDirectories ((root, tier) :: directories)).answer name w =
      (ofDirectories directories).answer name w := by
  have hlacking : (files root tier).answer name w = .ok none := by
    rw [answer, load, loadFile_eq, FileTree.read?_eq, FileTree.find?_eq, hlong]
    cases Path.isContained name <;> rfl
  rw [ofDirectories, List.map_cons, answer_chain_of_lacking hlacking, ofDirectories]

/-- A directory below which nothing is listed is passed over. -/
theorem entries_ofDirectories_of_nothing {root : String} {w : World}
    (hnothing : w.files.filesBelow root = []) (tier : Tier) (directories : List (String × Tier)) :
    (ofDirectories ((root, tier) :: directories)).entries w =
      (ofDirectories directories).entries w := by
  rw [ofDirectories, List.map_cons, entries, allEntries, entries, hnothing, ofDirectories, entries]
  rfl

/-- A single directory answers as the files below it do. -/
theorem answer_ofDirectories_singleton (root : String) (tier : Tier) (name : String) (w : World) :
    (ofDirectories [(root, tier)]).answer name w = loadFile root tier name w.files := by
  rw [ofDirectories, answer_chain_eq, List.map_singleton, List.findSome?_singleton, told?]
  split
  next h =>
    rw [← h, answer, load]
    rfl
  next => rw [Option.getD_some, answer, load]

end Source

namespace Service

private theorem answer_render (s : Service) (name : String) (m : Model) :
    s.answer (.render name m) = .text (s.manager.named.render name m s.world).1 := rfl

/-- A page that is not kept and that the source lacks is not found. -/
theorem answer_of_lacking {s : Service} {name : String} (hmiss : s.named.page? name = none)
    (hlacking : s.manager.named.source.answer name s.world = .ok none) (m : Model) :
    s.answer (.render name m) =
      .text (.error (.notFound (s.manager.named.source.displayName name))) := by
  have hmiss : s.manager.named.page? s.world.now name = none := hmiss
  have htemplate := Engine.template_of_miss hmiss
  rw [hlacking, Engine.compiled] at htemplate
  rw [answer_render, Engine.render_of_error htemplate]

/-- Runs that begin with different answers differ. -/
theorem replies_ne_of_answer_ne {s t : Service} {op op' : Operation}
    (hne : s.answer op ≠ t.answer op') (ops ops' : List Operation) :
    s.replies (op :: ops) ≠ t.replies (op' :: ops') := by
  intro heq
  rw [replies, replies] at heq
  exact hne (Reply.mk.inj (List.cons.inj heq).1).1

private theorem answer_list (s : Service) :
    s.answer .list = .entries (s.manager.list s.world) := rfl

/-- A template of the site is rendered under a name that is too long for a path below the
directory of the site, but not for one below that of the theme. So it makes a difference whether the
theme has a template at the same place. -/
theorem replies_of_long_spelling :
    let manager : Manager := .build "site" .development (.rooted "t" "t") 9 (fun _ => 0)
    let files := [(["site", "templates", "p"], "near"), (["t", "templates", "q"], "q")]
    let s : Service := ⟨manager, .ofFiles (files ++ [(["t", "templates", "p"], "far")])⟩
    let t : Service := ⟨manager, .ofFiles files⟩
    let op : Operation := .render (Path.dotted 2040 "p") ⟨[]⟩
    Alongside (Shadows ["p"]) s t [op] [op] ∧ s.answer op = .text (.ok "far") ∧
      t.answer op = .text (.error (.notFound (Path.dotted 2040 "p"))) ∧
        s.replies [op] ≠ t.replies [op] := by
  have contained : Path.isContained (Path.dotted 2040 "p") = true :=
    Path.isContained_dotted_succ rfl 2039
  have absolute : Path.isAbsolute (Path.dotted 2040 "p") = false :=
    Path.isAbsolute_of_isContained contained
  have long : FileTree.isPath (Path.join "site/templates/" (Path.dotted 2040 "p")) = false := by
    rw [Path.join_of_slash (by decide) absolute]
    exact (FileTree.isPath_append_dotted (by decide) (by decide) 2039).trans (by decide +kernel)
  have short : FileTree.isPath (Path.join "t/templates" (Path.dotted 2040 "p")) = true := by
    rw [Path.join_of_no_slash (by decide) (by decide) absolute]
    exact (FileTree.isPath_append_dotted (by decide) (by decide) 2039).trans (by decide +kernel)
  have along : ∀ get, FileTree.fileAlong get [] (Path.segments (Path.dotted 2040 "p")) =
      FileTree.fileAlong get [] ["p"] := fun get => FileTree.fileAlong_dotted get "p" 2040
  -- Nothing else is used of the name, which is a long one to compute with.
  generalize Path.dotted 2040 "p" = name at *
  intro manager files s t op
  have shadows : Alongside (Shadows ["p"]) s t [op] [op] := ⟨.of_nodes (by decide +kernel), trivial⟩
  have decides : ∀ u : World, manager.named.source.answer name u =
      loadFile "t/templates" .theme name u.files := by
    intro u
    rw [← Source.answer_ofDirectories_singleton]
    exact Source.answer_ofDirectories_of_long long .site [("t/templates", .theme)] u
  have reads : ∀ u : FileTree, u.LinkFree → u.read? (Path.join "t/templates" name) =
      FileTree.fileAlong (u.below? "t/templates") [] ["p"] := by
    intro u hfree
    rw [hfree.read?_join _ contained, along, if_pos short]
  have found : manager.named.source.answer name s.world = .ok (some ⟨name, "far", .theme⟩) := by
    have hread : s.world.files.read? (Path.join "t/templates" name) = some "far".toUTF8 := by
      rw [reads _ shadows.1.plain.linkFree]
      decide +kernel
    have htext : String.fromUTF8? "far".toUTF8 = some "far" := by decide +kernel
    rw [decides, loadFile_eq, if_pos contained, hread]
    simp only [htext]
  have lacking : manager.named.source.answer name t.world = .ok none := by
    have hread : t.world.files.read? (Path.join "t/templates" name) = none := by
      rw [reads _ shadows.1.plain'.linkFree]
      decide +kernel
    rw [decides, loadFile_eq, if_pos contained, hread]
  have rendered : s.answer op = .text (.ok "far") := by
    have hparse : Grammar.parse name "far" = .ok ⟨name, [.text "far"], []⟩ :=
      Grammar.parse_untagged (by decide +kernel) name
    have hmiss : manager.named.page? s.world.now name = none := rfl
    have htemplate := Engine.template_of_miss hmiss
    have hanswer : s.answer op = .text (manager.named.render name ⟨[]⟩ s.world).1 :=
      answer_render s name ⟨[]⟩
    rw [found, Engine.compiled, hparse] at htemplate
    rw [hanswer, Engine.render_of_ok htemplate]
    rfl
  have refused : t.answer op = .text (.error (.notFound name)) :=
    answer_of_lacking rfl lacking ⟨[]⟩
  refine ⟨shadows, rendered, refused, replies_ne_of_answer_ne ?_ [] []⟩
  rw [rendered, refused]
  simp

/-- The site and the theme have a template at the same place. It is listed for the site, unless the
path to its directory is too long, and then for the theme. So it makes a difference whether the theme
has it. -/
theorem replies_of_far_directory :
    let manager : Manager :=
      .build (Path.dotted 2037 "site") .development (.rooted "t" "t") 9 (fun _ => 0)
    let files := [(["site", "templates", "articles", "p"], "near"),
      (["t", "templates", "articles", "q"], "q")]
    let s : Service := ⟨manager, .ofFiles (files ++ [(["t", "templates", "articles", "p"], "far")])⟩
    let t : Service := ⟨manager, .ofFiles files⟩
    Alongside (Shadows ["articles", "p"]) s t [.list] [.list] ∧
      s.answer .list = .entries [⟨"articles/p", .theme⟩, ⟨"articles/q", .theme⟩] ∧
        t.answer .list = .entries [⟨"articles/q", .theme⟩] ∧
          s.replies [.list] ≠ t.replies [.list] := by
  intro manager files s t
  have spelled : siteResolve (Path.dotted 2037 "site") siteTemplates =
      Path.dotted 2037 "site/templates/" :=
    Path.join_dotted (by decide) (by decide) 2037
  have leads : ∀ u : FileTree, u.directory? (Path.dotted 2037 "site/templates/") =
      u.directory? "site/templates/" := fun u => FileTree.directory?_dotted _ 2037
  have path : FileTree.isPath (Path.dotted 2037 "site/templates/") = true := by
    rw [← String.empty_append (s := Path.dotted _ _)]
    exact (FileTree.isPath_append_dotted (by decide) (by decide) 2036).trans (by decide +kernel)
  have far : ¬ FileTree.Opens (Path.dotted 2037 "site/templates/") "articles/p" := by
    intro opens
    have holder : ∀ root, Path.holder root "articles/p" = Path.join root "articles" := fun _ => rfl
    rw [FileTree.Opens, holder, Path.join_dotted (by decide) (by decide),
      Path.utf8ByteSize_dotted] at opens
    revert opens
    decide
  have directories : templateDirectories manager.site manager.theme =
      [(siteResolve (Path.dotted 2037 "site") siteTemplates, .site), ("t/templates", .theme)] := rfl
  rw [spelled] at directories
  -- Nothing else is used of the path, which is a long one to compute with.
  generalize Path.dotted 2037 "site/templates/" = root at *
  have covers :
      World.Covers [(root, .site), ("t/templates", .theme)] ["articles", "p"] s.world 1 := by
    refine ⟨_, List.mem_cons_self, path, ?_, ?_⟩
    · rw [FileTree.below?, leads]
      decide +kernel
    · simp only [FileTree.below?, leads]
      decide +kernel
  have shadows : Alongside (Shadows ["articles", "p"]) s t [.list] [.list] := by
    refine ⟨?_, trivial⟩
    rw [Shadows, directories]
    refine .of_nodes ⟨by decide +kernel, by decide +kernel, ?_, ?_⟩
    · simp only [FileTree.Apart, leads, List.pairwise_pair]
      decide +kernel
    · have differ : ∀ e ∈ s.world.files.nodes ++ t.world.files.nodes,
          s.world.files.node? e.1 = t.world.files.node? e.1 ∨
            Node.isSlot (s.world.files.node? e.1) = true ∧
              Node.isSlot (t.world.files.node? e.1) = true ∧
                e.1 = ["t", "templates"] ++ ["articles", "p"] := by decide +kernel
      intro e he
      refine (differ e he).imp_right ?_
      rintro ⟨hslot, hslot', hplace⟩
      exact ⟨hslot, hslot', 1, Nat.one_lt_two, _, rfl, covers, _, by decide +kernel, hplace⟩
  have source : manager.named.source =
      .ofDirectories [(root, .site), ("t/templates", .theme)] := by
    rw [← directories]
    exact Source.forTheme_eq manager.site manager.theme
  have lists : ∀ w : World,
      (∀ name ∈ ((w.files.directory? "site/templates/").map w.files.filesAt).getD [],
        name = "articles/p") →
      answer ⟨manager, w⟩ .list =
        .entries ((Source.ofDirectories [("t/templates", .theme)]).entries w) := by
    intro w hfiles
    have nothing : w.files.filesBelow root = [] := by
      rw [FileTree.filesBelow_eq, if_pos path, leads, List.filter_eq_nil_iff]
      intro name hname
      rw [hfiles name hname]
      simpa using far
    rw [answer_list, Manager.list, source, Source.entries_ofDirectories_of_nothing nothing]
  have listed : s.answer .list = .entries [⟨"articles/p", .theme⟩, ⟨"articles/q", .theme⟩] := by
    rw [lists _ (by decide +kernel)]
    decide +kernel
  have unlisted : t.answer .list = .entries [⟨"articles/q", .theme⟩] := by
    rw [lists _ (by decide +kernel)]
    decide +kernel
  refine ⟨shadows, listed, unlisted, replies_ne_of_answer_ne ?_ [] []⟩
  rw [listed, unlisted]
  simp

end Service

end Stencil
