import Stencil.Proofs.FileTree.Respelling
import Stencil.Proofs.FileTree.Spelling
import Stencil.Proofs.Source.Attribution
import Stencil.Proofs.Source.Containment

/-!
# Equal themes

Themes are equal if their names are, their directories are spelled alike, and their parents are equal in
turn (`Theme.same`). Then their directories of templates are, one by one, spellings of the same path
(`Respelled`), and over any tree, with links or not, the sources of a site do the same under both themes:

> `Respelled.load_ofDirectories`: a name is looked up with the same result, if it is short enough to
> lead anywhere below both spellings of each directory, or below neither (`Level`);
> `Respelled.entries_ofDirectories`: the same is listed, if whatever directory holds a file that is
> listed is short enough to be opened under both spellings (`World.Listable`).

Without these conditions it can be told how a directory is spelled: a path that is too long leads
nowhere (`load_ne_of_long_spelling`).
-/

namespace Stencil

/-! ## Directories that are spelled alike -/

/-- The pieces of the two directories that count are the same ones, and so are the tiers. -/
structure Respelled (d e : String × Tier) : Prop where
  ne_empty : d.1 ≠ ""
  ne_empty' : e.1 ≠ ""
  place : Path.place d.1 = Path.place e.1
  tier : d.2 = e.2

/-- Below each of the directories a name is short enough to lead anywhere in both spellings, or in
neither. -/
def Level (directories directories' : List (String × Tier)) (name : String) : Prop :=
  List.Forall₂ (fun d e => (Path.join d.1 name).utf8ByteSize < FileTree.pathLimit ↔
    (Path.join e.1 name).utf8ByteSize < FileTree.pathLimit) directories directories'

instance (directories directories' : List (String × Tier)) (name : String) :
    Decidable (Level directories directories' name) :=
  inferInstanceAs (Decidable (List.Forall₂ _ _ _))

/-- Each of the directories is spelled the same, or what holds the files that are listed there is short
enough to be opened in both spellings. -/
def World.Listable (directories directories' : List (String × Tier)) (w : World) : Prop :=
  List.Forall₂ (fun d e => d.1 = e.1 ∨
    ∀ name ∈ w.files.filesBelow d.1 ++ w.files.filesBelow e.1,
      (Path.holder d.1 name).utf8ByteSize < FileTree.pathLimit ∧
        (Path.holder e.1 name).utf8ByteSize < FileTree.pathLimit) directories directories'

instance (directories directories' : List (String × Tier)) (w : World) :
    Decidable (w.Listable directories directories') :=
  inferInstanceAs (Decidable (List.Forall₂ _ _ _))

namespace Respelled

variable {d e : String × Tier} {name : String} {w : World}

/-- A file is found below both spellings, as long as both are short enough or neither is. -/
private theorem answer_files (h : Respelled d e)
    (hlevel : (Path.join d.1 name).utf8ByteSize < FileTree.pathLimit ↔
      (Path.join e.1 name).utf8ByteSize < FileTree.pathLimit) :
    (Source.files d.1 d.2).answer name w = (Source.files e.1 e.2).answer name w := by
  simp only [Source.answer, Source.load]
  rw [loadFile_eq, loadFile_eq, h.tier]
  cases hname : Path.isContained name with
  | false => rfl
  | true =>
    have habsolute := Path.isAbsolute_of_isContained hname
    have hne : name ≠ "" := by
      intro hempty
      rw [hempty] at hname
      cases hname
    have hplace : Path.place (Path.join d.1 name) = Path.place (Path.join e.1 name) := by
      rw [Path.place_join habsolute, Path.place_join habsolute, h.place]
    have hpath := FileTree.isPath_eq_of_place (Path.join_ne_empty hne d.1)
      (Path.join_ne_empty hne e.1) hplace hlevel
    rw [FileTree.read?_join_eq_of_place h.place habsolute hpath]

variable {directories directories' : List (String × Tier)}

/-- Another spelling has the same tiers. -/
theorem tiers_ofDirectories (h : List.Forall₂ Respelled directories directories') :
    (Source.ofDirectories directories).tiers = (Source.ofDirectories directories').tiers := by
  have htiers : ∀ l : List (String × Tier), (Source.ofDirectories l).tiers = l.map Prod.snd := by
    intro l
    show (l.map fun d => Source.files d.1 d.2).filterMap Source.tier? = _
    rw [List.filterMap_map]
    exact congrFun List.filterMap_eq_map l
  rw [htiers, htiers]
  induction h with
  | nil => rfl
  | cons hd _ ih => rw [List.map_cons, List.map_cons, hd.tier, ih]

/-- Spellings of the same directories look a name up with the same result, if it is level below
them. -/
theorem load_ofDirectories (h : List.Forall₂ Respelled directories directories')
    (hlevel : Level directories directories' name) :
    (Source.ofDirectories directories).load name w =
      (Source.ofDirectories directories').load name w := by
  have hanswer : (Source.ofDirectories directories).answer name w =
      (Source.ofDirectories directories').answer name w := by
    unfold Source.ofDirectories
    induction h with
    | nil => rfl
    | @cons d e _ _ hd _ ih =>
      obtain ⟨hname, hnames⟩ := List.forall₂_cons.mp hlevel
      have hfirst := hd.answer_files (w := w) hname
      rw [List.map_cons, List.map_cons]
      by_cases hlacking : (Source.files d.1 d.2).answer name w = .ok none
      · rw [Source.answer_chain_of_lacking hlacking,
          Source.answer_chain_of_lacking (hfirst ▸ hlacking), ih hnames]
      · rw [Source.answer_chain_of_telling hlacking,
          Source.answer_chain_of_telling (hfirst ▸ hlacking), hfirst]
  have hworld : ((Source.ofDirectories directories).load name w).2 =
      ((Source.ofDirectories directories').load name w).2 := by
    rw [Source.still_ofDirectories, Source.still_ofDirectories]
  exact Prod.ext hanswer hworld

/-- Spellings of the same directories list the same, if what is listed is short enough. -/
theorem entries_ofDirectories (h : List.Forall₂ Respelled directories directories')
    (hlisted : w.Listable directories directories') :
    (Source.ofDirectories directories).entries w =
      (Source.ofDirectories directories').entries w := by
  rw [Source.ofDirectories, Source.ofDirectories, Source.entries, Source.entries]
  refine congrArg sortEntries ?_
  induction h with
  | nil => rfl
  | @cons d e _ _ hd _ ih =>
    obtain ⟨hnames, hrest⟩ := List.forall₂_cons.mp hlisted
    have hbelow : w.files.filesBelow d.1 = w.files.filesBelow e.1 := by
      rcases hnames with heq | hnames
      · rw [heq]
      · exact FileTree.filesBelow_eq_of_place hd.ne_empty hd.ne_empty' hd.place hnames
    rw [List.map_cons, List.map_cons, Source.allEntries, Source.allEntries, Source.entries,
      Source.entries, hbelow, hd.tier, ih hrest]

end Respelled

/-! ## The directories of equal themes -/

namespace Theme

mutual

/-- A theme is the same as itself. -/
theorem same_refl : ∀ t : Theme, t.same t = true
  | ⟨name, root, parent⟩ => by
    have hroot : sameRoot root root = true := by
      cases root with
      | none => rfl
      | some root => exact beq_self_eq_true _
    rw [same, beq_self_eq_true, hroot, sameParent_refl parent]
    rfl

private theorem sameParent_refl : ∀ p : Option Theme, sameParent p p = true
  | none => by
    rw [sameParent]
    rfl
  | some t => by
    rw [sameParent]
    exact same_refl t

end

private theorem sameRoot_cases {x y : Option String} (h : sameRoot x y = true) :
    x = none ∧ y = none ∨ ∃ p q, x = some p ∧ y = some q ∧ Path.same p q = true := by
  cases x with
  | none =>
    cases y with
    | none => exact Or.inl ⟨rfl, rfl⟩
    | some q => cases h
  | some p =>
    cases y with
    | none => cases h
    | some q => exact Or.inr ⟨p, q, rfl, rfl, h⟩

private theorem sameParent_cases {x y : Option Theme} (h : sameParent x y = true) :
    x = none ∧ y = none ∨ ∃ p q : Theme, x = some p ∧ y = some q ∧ p.same q = true := by
  cases x with
  | none =>
    rw [sameParent, Option.isNone_iff_eq_none] at h
    exact Or.inl ⟨rfl, h⟩
  | some p =>
    cases y with
    | none =>
      rw [sameParent] at h
      cases h
    | some q =>
      rw [sameParent] at h
      exact Or.inr ⟨p, q, rfl, rfl, h⟩

/-- Themes are the same by their names, their directories and their parents. -/
private theorem same_iff {a b : Theme} : a.same b = true ↔
    a.name = b.name ∧ sameRoot a.root b.root = true ∧ sameParent a.parent b.parent = true := by
  cases a with
  | mk name root parent =>
    rw [same, Bool.and_eq_true, Bool.and_eq_true, beq_iff_eq, and_assoc]

variable {a b : Theme}

private theorem isEmpty_of_same (h : a.same b = true) : a.isEmpty = b.isEmpty := by
  unfold isEmpty
  rcases sameRoot_cases (same_iff.mp h).2.1 with ⟨ha, hb⟩ | ⟨p, q, ha, hb, -⟩
  · rw [ha, hb]
  · rw [ha, hb]
    rfl

/-- Equal themes spell their directories of templates alike. -/
theorem respelled_templatesPath (h : a.same b = true) (tier : Tier) :
    List.Forall₂ Respelled ((a.templatesPath.map fun path => (path, tier)).toList)
      ((b.templatesPath.map fun path => (path, tier)).toList) := by
  unfold templatesPath
  rcases sameRoot_cases (same_iff.mp h).2.1 with ⟨ha, hb⟩ | ⟨p, q, ha, hb, hsame⟩
  · rw [ha, hb]
    exact .nil
  · rw [ha, hb]
    have habsolute : Path.isAbsolute "templates" = false := by decide
    have hne : "templates" ≠ "" := by decide
    refine .cons ⟨Path.join_ne_empty hne p, Path.join_ne_empty hne q, ?_, rfl⟩ .nil
    show Path.place (Path.join p "templates") = Path.place (Path.join q "templates")
    rw [Path.place_join habsolute, Path.place_join habsolute, Path.place_eq_of_same hsame]

private theorem respelled_parent (h : a.same b = true) (tier : Tier) :
    List.Forall₂ Respelled
      (((a.parent.bind templatesPath).map fun path => (path, tier)).toList)
      (((b.parent.bind templatesPath).map fun path => (path, tier)).toList) := by
  rcases sameParent_cases (same_iff.mp h).2.2 with ⟨ha, hb⟩ | ⟨p, q, ha, hb, hsame⟩
  · rw [ha, hb]
    exact .nil
  · rw [ha, hb]
    exact respelled_templatesPath hsame tier

end Theme

/-- Under equal themes the directories of templates are spelled alike. -/
theorem respelled_templateDirectories {a b : Theme} (h : a.same b = true) (site : String) :
    List.Forall₂ Respelled (templateDirectories site a) (templateDirectories site b) := by
  have hne : siteTemplates ≠ "" := by decide
  have hsite : siteResolve site siteTemplates ≠ "" := Path.join_ne_empty hne site
  refine .cons ⟨hsite, hsite, rfl, rfl⟩ ?_
  rw [Theme.isEmpty_of_same h]
  split
  · exact .nil
  · exact List.rel_append (Theme.respelled_templatesPath h .theme)
      (Theme.respelled_parent h .parentTheme)

/-! ## A spelling that is too long -/

private theorem Path.place_dotted (path : String) : ∀ n, place (dotted n path) = place path
  | 0 => rfl
  | n + 1 => by
    rw [← place_dotted path n]
    unfold place
    rw [segments_dotted_succ, List.filter_cons]
    rfl

/-- Dots behind a directory make no other directory. -/
theorem Path.same_join_dotted {root : String} (hroot : root ≠ "") (n : Nat) :
    same root (join root (dotted (n + 1) ".")) = true := by
  have hdots : isContained (dotted (n + 1) ".") = true := isContained_dotted_succ (by decide) n
  have hnothing : place (dotted (n + 1) ".") = [] := by
    rw [place_dotted]
    decide +kernel
  unfold same
  rw [components_join hroot hdots, hnothing, List.map_nil, List.append_nil, beq_iff_eq]

/-- A path that is too long leads nowhere. -/
theorem FileTree.isPath_of_long {path : String} (h : pathLimit ≤ path.utf8ByteSize) :
    isPath path = false := by
  refine eq_false_of_ne_true fun hpath => ?_
  have hshort := (isPath_iff.mp hpath).2.2
  omega

private theorem FileTree.read?_of_long {path : String} (h : pathLimit ≤ path.utf8ByteSize)
    (t : FileTree) :
    t.read? path = none := by
  rw [read?_eq, find?_eq, isPath_of_long h]
  rfl

private theorem FileTree.filesBelow_of_long {path : String} (h : pathLimit ≤ path.utf8ByteSize)
    (t : FileTree) : t.filesBelow path = [] := by
  rw [filesBelow_eq, isPath_of_long h]
  rfl

/-- Dots behind the directory of a theme make no other theme, but they make the directory too long to be
opened, and its files too. -/
theorem load_ne_of_long_spelling :
    let w : World := ⟨⟨[(["t"], .directory), (["t", "templates"], .directory),
      (["t", "templates", "a"], .file "x".toUTF8)]⟩, [], 0⟩
    let short : Theme := .rooted "t" "t"
    let long : Theme := .rooted "t" ("t/" ++ Path.dotted 2100 ".")
    short.same long = true ∧
      ((Source.forTheme "site" short).answer "a" w = .ok (some ⟨"a", "x", .theme⟩) ∧
        (Source.forTheme "site" long).answer "a" w = .ok none) ∧
      (Source.forTheme "site" short).entries w = [⟨"a", .theme⟩] ∧
        (Source.forTheme "site" long).entries w = [] := by
  intro w short long
  have hroot : Path.same "t" ("t/" ++ Path.dotted 2100 ".") = true := by
    have hdots : Path.isContained (Path.dotted 2100 ".") = true :=
      Path.isContained_dotted_succ (by decide) 2099
    have hjoin : Path.join "t" (Path.dotted 2100 ".") = "t/" ++ Path.dotted 2100 "." :=
      Path.join_of_no_slash (by decide) (by decide) (Path.isAbsolute_of_isContained hdots)
    rw [← hjoin]
    exact Path.same_join_dotted (by decide) 2099
  have hsame : short.same long = true := Theme.same_iff.mpr ⟨rfl, hroot, by decide⟩
  let templates : String := Path.join ("t/" ++ Path.dotted 2100 ".") "templates"
  have hsources : Source.forTheme "site" long =
    .chain [.files (siteResolve "site" siteTemplates) .site, .files templates .theme] := rfl
  have hlong : FileTree.pathLimit ≤ templates.utf8ByteSize := by
    have hjoin : ("t/" ++ Path.dotted 2100 ".").utf8ByteSize ≤ templates.utf8ByteSize :=
      FileTree.utf8ByteSize_le_join (by decide) _
    rw [String.utf8ByteSize_append, Path.utf8ByteSize_dotted] at hjoin
    unfold FileTree.pathLimit
    omega
  refine ⟨hsame, ⟨by decide +kernel, ?_⟩, by decide +kernel, ?_⟩
  · have hfile : FileTree.pathLimit ≤ (Path.join templates "a").utf8ByteSize :=
      hlong.trans (FileTree.utf8ByteSize_le_join (by decide) _)
    have hsite : (Source.files (siteResolve "site" siteTemplates) .site).answer "a" w =
        .ok none := by
      decide +kernel
    have htheme : (Source.files templates .theme).answer "a" w = .ok none :=
      (Source.answer_files_eq_none_iff (by decide)).mpr (FileTree.read?_of_long hfile w.files)
    rw [hsources, Source.answer_chain_of_lacking hsite, Source.answer_chain_of_lacking htheme]
    rfl
  · have hsite : w.files.filesBelow (siteResolve "site" siteTemplates) = [] := by decide +kernel
    have htheme : w.files.filesBelow templates = [] := FileTree.filesBelow_of_long hlong w.files
    rw [hsources]
    simp only [Source.entries, Source.allEntries, hsite, htheme]
    rfl

end Stencil
