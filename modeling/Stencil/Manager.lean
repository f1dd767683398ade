import Stencil.Engine
import Stencil.Theme

/-!
# Managers

A manager serves a site: one engine for the templates of the site and its theme, and one for texts that
are templates themselves. Both are built from the same policy and replaced together when the theme
changes.
-/

namespace Stencil

/-- The engines of a site under a theme. -/
structure Manager where
  site : String
  policy : CachePolicy
  theme : Theme
  named : Engine
  inline : Engine
  levels : Nat
  victim : Victim

namespace Manager

/-- A new manager. -/
def build (site : String) (policy : CachePolicy) (theme : Theme) (levels : Nat) (victim : Victim) :
    Manager where
  site := site
  policy := policy
  theme := theme
  named := .build (.forTheme site theme) policy.cacheConfig levels victim
  inline := .build .inline policy.cacheConfig levels victim
  levels := levels
  victim := victim

/-- Renders a template of the site. -/
def render (m : Manager) (name : String) (model : Model) (w : World) :
    Except TemplateError String × Manager × World :=
  let (r, e, w) := m.named.render name model w
  (r, { m with named := e }, w)

/-- Renders a text as a template. -/
def renderString (m : Manager) (text : String) (model : Model) (w : World) :
    Except TemplateError String × Manager × World :=
  let (r, e, w) := m.inline.render text model w
  (r, { m with inline := e }, w)

/-- Forgets what is kept of the site's templates, if anything is kept. -/
def invalidate (m : Manager) : Manager :=
  if m.named.isCaching then { m with named := m.named.invalidate } else m

/-- Changes the theme. -/
def updateTheme (m : Manager) (t : Theme) : Manager :=
  build m.site m.policy t m.levels m.victim

/-- The tiers that templates are looked for in, in this order. -/
def tiers (m : Manager) : List Tier := m.named.source.tiers

/-- The templates of the site and its theme. -/
def list (m : Manager) (w : World) : List Entry := m.named.source.entries w

end Manager

end Stencil
