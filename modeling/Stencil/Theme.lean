import Stencil.Source

/-!
# Themes

A theme is a directory of templates, perhaps with a parent theme whose templates stand behind its own.
The empty theme has no directory. The sources of a site under a theme are, in this order, the site's own
templates, those of the theme, and those of its parent.
-/

namespace Stencil

/-- An installed theme. -/
structure Theme where
  name : String
  root : Option String
  parent : Option Theme
  deriving Repr, Inhabited

namespace Theme

/-- The absent theme. -/
def empty : Theme := ⟨"", none, none⟩

/-- A theme with a directory. -/
def rooted (name root : String) : Theme := ⟨name, some root, none⟩

/-- Whether the theme has no directory. -/
def isEmpty (t : Theme) : Bool := t.root.isNone

/-- The theme with a parent; an empty parent is none. -/
def withParent (t parent : Theme) : Theme :=
  { t with parent := if parent.isEmpty then none else some parent }

/-- The directory of the theme's templates. -/
def templatesPath (t : Theme) : Option String := t.root.map fun root => Path.join root "templates"

/-- Whether two directories are spelled alike up to what does not count, or both missing. -/
def sameRoot : Option String → Option String → Bool
  | some a, some b => Path.same a b
  | none, none => true
  | _, _ => false

mutual

/-- Equality of themes: names, directories and parents. -/
def same : Theme → Theme → Bool
  | ⟨name, root, parent⟩, t => name == t.name && sameRoot root t.root && sameParent parent t.parent

/-- Equality of parents. -/
def sameParent : Option Theme → Option Theme → Bool
  | none, p => p.isNone
  | some t, p => match p with
    | some q => t.same q
    | none => false

end

/-- The sources of a theme and its parent. -/
def sources (t : Theme) : List Source :=
  if t.isEmpty then []
  else
    (t.templatesPath.map fun path => Source.files path .theme).toList
      ++ ((t.parent.bind templatesPath).map fun path => Source.files path .parentTheme).toList

end Theme

/-- A path below the root of a site. -/
def siteResolve (site relative : String) : String := Path.join site relative

/-- The directory of a site's templates, relative to the site. -/
def siteTemplates : String := "templates/"

/-- The sources of a site under a theme. -/
def Source.forTheme (site : String) (t : Theme) : Source :=
  .chain (.files (siteResolve site siteTemplates) .site :: t.sources)

end Stencil
