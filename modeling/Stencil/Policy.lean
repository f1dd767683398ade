import Stencil.Store

/-!
# Cache policy

What an engine caches and how strict it is, and the two policies a server runs under: development caches
nothing and refuses undefined values, production caches templates and fragments for a minute and prints
nothing for them.
-/

namespace Stencil

/-- What an engine caches, and whether it refuses undefined values. -/
structure CacheConfig where
  templateCache : Option StoreSettings
  tagCache : Option StoreSettings
  strictVariables : Bool
  deriving DecidableEq, Repr, Inhabited

namespace CacheConfig

/-- No caches, and undefined values print nothing. -/
def plain : CacheConfig := ⟨none, none, false⟩

/-- No caches, and undefined values are errors. -/
def development : CacheConfig := ⟨none, none, true⟩

/-- Both caches, and undefined values print nothing. -/
def production : CacheConfig := ⟨some .standard, some .standard, false⟩

/-- The configuration with another time to live in every cache it has. -/
def withTimeToLive (c : CacheConfig) (ms : Nat) : CacheConfig :=
  { c with
    templateCache := c.templateCache.map fun s => { s with timeToLive := ms }
    tagCache := c.tagCache.map fun s => { s with timeToLive := ms } }

/-- Whether there is any cache. -/
def isCaching (c : CacheConfig) : Bool := c.templateCache.isSome || c.tagCache.isSome

end CacheConfig

/-- The policies. -/
inductive CachePolicy where
  | development
  | production
  deriving DecidableEq, Repr

namespace CachePolicy

/-- The policy of a server by its development flag. -/
def forDevMode (dev : Bool) : CachePolicy := if dev then development else production

/-- Whether the policy is the one for development. -/
def isDevelopment (p : CachePolicy) : Bool := p == development

/-- What the policy prescribes. -/
def cacheConfig : CachePolicy → CacheConfig
  | development => .development
  | production => .production

end CachePolicy

end Stencil
