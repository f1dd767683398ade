import Stencil.Proofs.FileTree.Listing
import Stencil.Proofs.Source.Shadowing

/-!
# Whom a listing names

The listing of a site's templates names, for each of them, the first directory below which a walk
meets the file. A look-up takes the first directory below which it can open one, and unlike the walk
it follows links. So the two name the same tier exactly as long as no directory in front has the
template behind a link, and its path is not too long to be opened:

> `wins_iff_of_listed`: of a template that is listed and can be looked up, the tier that the listing
> names is the one that the look-up finds exactly if no directory in front gives it.

Where a directory in front does give it, there is a link on the way (`LinkOnWay`), and then the
listing names a tier that the template is not loaded from (`lists_theme_loads_site`).
-/

namespace Stencil

namespace Source

variable {directories : List (String × Tier)} {w : World} {n : String} {tier : Tier}

/-- What several directories list is in the first of them that lists the name. -/
theorem mem_entries_ofDirectories_iff :
    ⟨n, tier⟩ ∈ (ofDirectories directories).entries w ↔
      ∃ front root behind, directories = front ++ (root, tier) :: behind ∧
        n ∈ w.files.filesBelow root ∧ ∀ d ∈ front, n ∉ w.files.filesBelow d.1 := by
  rw [ofDirectories, entries, mem_sortEntries_iff, find?_allEntries, List.findSome?_map,
    List.findSome?_eq_some_iff]
  simp only [Function.comp_apply, find?_entries_files, Option.ite_none_right_eq_some,
    Option.some.injEq, Entry.mk.injEq, true_and, ite_eq_right_iff, reduceCtorEq, imp_false]
  constructor
  · rintro ⟨front, d, behind, hsplit, ⟨hmem, rfl⟩, hfront⟩
    exact ⟨front, d.1, behind, hsplit, hmem, hfront⟩
  · rintro ⟨front, root, behind, hsplit, hmem, hfront⟩
    exact ⟨front, (root, tier), behind, hsplit, ⟨hmem, rfl⟩, hfront⟩

/-- Several directories have an answer exactly if the first that does not lack the name has it. -/
theorem answer_ofDirectories_eq_iff {told : Except String (Option Loaded)}
    (htold : told ≠ .ok none) :
    (ofDirectories directories).answer n w = told ↔
      ∃ front d behind, directories = front ++ d :: behind ∧
        (∀ e ∈ front, (files e.1 e.2).answer n w = .ok none) ∧
          (files d.1 d.2).answer n w = told := by
  rw [ofDirectories, answer_chain_eq_iff htold]
  constructor
  · rintro ⟨before, s, after, hsplit, hbefore, hs⟩
    obtain ⟨front, rest, rfl, rfl, hrest⟩ := List.map_eq_append_iff.mp hsplit
    obtain ⟨d, behind, rfl, rfl, -⟩ := List.map_eq_cons_iff.mp hrest
    exact ⟨front, d, behind, rfl, fun e he => hbefore _ (List.mem_map_of_mem he), hs⟩
  · rintro ⟨front, d, behind, rfl, hfront, hd⟩
    refine ⟨_, _, _, by rw [List.map_append, List.map_cons], ?_, hd⟩
    intro t ht
    obtain ⟨e, he, rfl⟩ := List.mem_map.mp ht
    exact hfront e he

/-- A tier stands for one place among directories of different tiers. -/
theorem split_unique (hdistinct : (directories.map Prod.snd).Nodup)
    {front front' behind behind' : List (String × Tier)} {root root' : String}
    (h : directories = front ++ (root, tier) :: behind)
    (h' : directories = front' ++ (root', tier) :: behind') : front = front' ∧ root = root' := by
  have hsame : (root, tier) = (root', tier) := by
    refine List.inj_on_of_nodup_map hdistinct ?_ ?_ rfl
    · rw [h]
      exact List.mem_append_right _ List.mem_cons_self
    · rw [h']
      exact List.mem_append_right _ List.mem_cons_self
  obtain ⟨rfl, -⟩ := Prod.mk.inj hsame
  have hnodup : directories.Nodup := hdistinct.of_map
  rw [h, List.nodup_middle, List.nodup_cons, List.mem_append, not_or] at hnodup
  obtain ⟨⟨hfront, hbehind⟩, -⟩ := hnodup
  exact ⟨((List.append_cons_inj_of_notMem hfront hbehind).mp (h.symm.trans h')).1, rfl⟩

/-- What a listing attributes to a directory is loaded from there, unless a directory in front gives
it, or its path is too long, or the look-up fails. -/
theorem answer_ofDirectories_of_listed (htree : w.files.Natural)
    (hdistinct : (directories.map Prod.snd).Nodup) {front behind : List (String × Tier)}
    {root : String} (hsplit : directories = front ++ (root, tier) :: behind)
    (hlisted : n ∈ w.files.filesBelow root)
    (htells : ∀ reason, (ofDirectories directories).answer n w ≠ .error reason) :
    (∃ content, (ofDirectories directories).answer n w = .ok (some ⟨n, content, tier⟩)) ↔
      (∀ d ∈ front, w.files.read? (Path.join d.1 n) = none) ∧
        (Path.join root n).utf8ByteSize < FileTree.pathLimit := by
  have hn : Path.isContained n = true := (htree.tidy_of_mem_filesBelow hlisted).isContained
  constructor
  · rintro ⟨content, hanswer⟩
    obtain ⟨front', ⟨root', tier'⟩, behind', hsplit', hfront', htold⟩ :=
      (answer_ofDirectories_eq_iff (by exact nofun)).mp hanswer
    obtain ⟨bytes, content', hread, -, hbody⟩ := (answer_files_eq_some_iff hn).mp htold
    cases hbody
    obtain ⟨rfl, rfl⟩ := split_unique hdistinct hsplit hsplit'
    refine ⟨fun d hd => (answer_files_eq_none_iff hn).mp (hfront' d hd), ?_⟩
    exact (FileTree.isPath_iff.mp (FileTree.isPath_of_read? hread)).2.2
  · rintro ⟨hfront, hshort⟩
    obtain ⟨bytes, hread⟩ := htree.exists_read?_of_mem_filesBelow hlisted hshort
    have hlacking : ∀ e ∈ front, (files e.1 e.2).answer n w = .ok none := fun e he =>
      (answer_files_eq_none_iff hn).mpr (hfront e he)
    have htelling : (files root tier).answer n w ≠ .ok none := by
      rw [Ne, answer_files_eq_none_iff hn, hread]
      exact nofun
    have hfirst : (ofDirectories directories).answer n w = (files root tier).answer n w :=
      (answer_ofDirectories_eq_iff htelling).mpr
        ⟨front, (root, tier), behind, hsplit, hlacking, rfl⟩
    -- The first directory that has the file decides, so one that is not text fails the look-up.
    cases htext : String.fromUTF8? bytes with
    | none =>
      have hfails : (files root tier).answer n w = .error ReadProblem.notText.message :=
        answer_files_eq_error_iff.mpr ⟨hn, rfl, bytes, hread, htext⟩
      exact absurd (hfirst.trans hfails) (htells _)
    | some content =>
      refine ⟨content, hfirst.trans ?_⟩
      exact (answer_files_eq_some_iff hn).mpr ⟨bytes, content, hread, htext, rfl⟩

end Source

/-- A name below a directory makes a path. -/
theorem Path.join_ne_empty {right : String} (h : right ≠ "") (left : String) :
    join left right ≠ "" := by
  rw [join]
  split
  · exact h
  · split <;> simp [h]

/-- The directories of templates have paths that are not empty. -/
theorem ne_empty_of_mem_templateDirectories {site : String} {t : Theme} {d : String × Tier}
    (hd : d ∈ templateDirectories site t) : d.1 ≠ "" := by
  have hpath : ∀ {u : Theme} {path : String}, u.templatesPath = some path → path ≠ "" := by
    intro u path hpath
    have hname : "templates" ≠ "" := by decide
    obtain ⟨root, -, rfl⟩ := Option.map_eq_some_iff.mp hpath
    exact Path.join_ne_empty hname root
  rw [templateDirectories] at hd
  rcases List.mem_cons.mp hd with rfl | hd
  · have hname : siteTemplates ≠ "" := by decide
    exact Path.join_ne_empty hname site
  · split at hd
    · cases hd
    · rcases List.mem_append.mp hd with hd | hd
      · obtain ⟨path, htheme, rfl⟩ := Option.map_eq_some_iff.mp (Option.mem_toList.mp hd)
        exact hpath htheme
      · obtain ⟨path, hparent, rfl⟩ := Option.map_eq_some_iff.mp (Option.mem_toList.mp hd)
        obtain ⟨parent, -, hparent⟩ := Option.bind_eq_some_iff.mp hparent
        exact hpath hparent

/-- The directories of templates are of different tiers. -/
theorem nodup_tiers_templateDirectories (site : String) (t : Theme) :
    ((templateDirectories site t).map Prod.snd).Nodup := by
  rw [templateDirectories]
  split
  · exact List.nodup_singleton _
  · cases t.templatesPath <;> cases t.parent.bind Theme.templatesPath <;> simp

/-- A template that is listed for a site under a theme is below the first directory that lists it,
and its tier is that of this directory. Any directory in front that has it has it through a link.
Unless looking it up fails, the tier of the listing is the one that is found exactly if no directory
in front has the template and its path in this directory is not too long. -/
theorem wins_iff_of_listed {w : World} (htree : w.files.Natural) {site : String} {t : Theme}
    {n : String} {tier : Tier} (hlisted : ⟨n, tier⟩ ∈ (Source.forTheme site t).entries w)
    (htells : ∀ reason, (Source.forTheme site t).answer n w ≠ .error reason) :
    ∃ front root behind, templateDirectories site t = front ++ (root, tier) :: behind ∧
      n ∈ w.files.filesBelow root ∧
        (∀ d ∈ front, n ∉ w.files.filesBelow d.1 ∧
          ∀ bytes ∈ w.files.read? (Path.join d.1 n), w.files.LinkOnWay d.1 n) ∧
          ((∃ content, (Source.forTheme site t).answer n w = .ok (some ⟨n, content, tier⟩)) ↔
            (∀ d ∈ front, w.files.read? (Path.join d.1 n) = none) ∧
              (Path.join root n).utf8ByteSize < FileTree.pathLimit) := by
  rw [Source.forTheme_eq] at hlisted htells ⊢
  obtain ⟨front, root, behind, hsplit, hmem, hfront⟩ :=
    Source.mem_entries_ofDirectories_iff.mp hlisted
  refine ⟨front, root, behind, hsplit, hmem, fun d hd => ⟨hfront d hd, fun bytes hread => ?_⟩, ?_⟩
  · have hd' : d ∈ templateDirectories site t := by
      rw [hsplit]
      exact List.mem_append_left _ hd
    have hne := ne_empty_of_mem_templateDirectories hd'
    have htidy := htree.tidy_of_mem_filesBelow hmem
    exact (htree.mem_filesBelow_or_linkOnWay hne htidy hread).resolve_left (hfront d hd)
  · have hdistinct := nodup_tiers_templateDirectories site t
    exact Source.answer_ofDirectories_of_listed htree hdistinct hsplit hmem htells

/-- The theme's directory is a link, and so is a template of the site, which leads nowhere. The
parent has the listed template as well. -/
theorem wins_iff_of_listed_in_linked_theme :
    let w : World := ⟨⟨[(["site"], .directory), (["site", "templates"], .directory),
      (["site", "templates", "b"], .link "../gone"), (["red"], .link "themes/red"),
      (["themes"], .directory), (["themes", "red"], .directory),
      (["themes", "red", "templates"], .directory),
      (["themes", "red", "templates", "a"], .file "x".toUTF8), (["blue"], .directory),
      (["blue", "templates"], .directory), (["blue", "templates", "a"], .file "y".toUTF8)]⟩, [], 0⟩
    let theme : Theme := (Theme.rooted "red" "red").withParent (.rooted "blue" "blue")
    let source : Source := .forTheme "site" theme
    w.files.Natural ∧ ⟨"a", .theme⟩ ∈ source.entries w ∧
      (∀ reason, source.answer "a" w ≠ .error reason) ∧
        ∃ front root behind, templateDirectories "site" theme = front ++ (root, .theme) :: behind ∧
          ((∃ content, source.answer "a" w = .ok (some ⟨"a", content, .theme⟩)) ↔
            (∀ d ∈ front, w.files.read? (Path.join d.1 "a") = none) ∧
              (Path.join root "a").utf8ByteSize < FileTree.pathLimit) := by
  intro w theme source
  have tree : w.files.Natural := by decide +kernel
  have listed : ⟨"a", .theme⟩ ∈ source.entries w := by decide +kernel
  have tells : ∀ reason, source.answer "a" w ≠ .error reason := by
    have answer : source.answer "a" w = .ok (some ⟨"a", "x", .theme⟩) := by decide +kernel
    rw [answer]
    exact nofun
  obtain ⟨front, root, behind, split, -, -, wins⟩ := wins_iff_of_listed tree listed tells
  exact ⟨tree, listed, tells, front, root, behind, split, wins⟩

/-- The site has a template by a link. The theme's file of the same name is listed, with the tier of
the theme, and the look-up finds the one of the site. -/
theorem lists_theme_loads_site :
    let w : World := ⟨⟨[(["site"], .directory), (["site", "templates"], .directory),
      (["site", "templates", "a.html"], .link "../other.html"),
      (["site", "other.html"], .file "site text".toUTF8), (["t"], .directory),
      (["t", "templates"], .directory),
      (["t", "templates", "a.html"], .file "theme text".toUTF8)]⟩, [], 0⟩
    let source : Source := .forTheme "site" (.rooted "t" "t")
    w.files.Natural ∧ source.entries w = [⟨"a.html", .theme⟩] ∧
      source.answer "a.html" w = .ok (some ⟨"a.html", "site text", .site⟩) := by
  intro w source
  exact ⟨by decide +kernel, by decide +kernel, by decide +kernel⟩

end Stencil
