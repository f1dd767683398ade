/-!
# Stores whose entries expire

A store keeps values by key. An entry is live for a fixed time after it was written; reading does not
prolong it, and what is not live might as well not be there. A store never holds more live entries than
its capacity: when a new entry is one too many, one of the entries is dropped, and which one is left
open (`Victim`).
-/

namespace Stencil

/-- How long entries live, in milliseconds, and how many there may be. -/
structure StoreSettings where
  timeToLive : Nat
  capacity : Nat
  deriving DecidableEq, Repr

/-- A minute, and ten thousand entries. -/
def StoreSettings.standard : StoreSettings := ⟨60000, 10000⟩

/-- A value with its key and the time at which it was written. -/
structure StoreEntry (α : Type) where
  key : String
  value : α
  written : Nat

/-- Which of some keys a full store drops, as a position among them. -/
abbrev Victim := List String → Nat

/-- Values by key, the latest written first. -/
structure Store (α : Type) where
  settings : StoreSettings
  victim : Victim
  entries : List (StoreEntry α)

namespace Store

variable {α : Type}

/-- A store without entries. -/
def empty (settings : StoreSettings) (victim : Victim) : Store α := ⟨settings, victim, []⟩

/-- Whether an entry is live at a time. -/
def isLive (settings : StoreSettings) (now : Nat) (e : StoreEntry α) : Bool :=
  now - e.written < settings.timeToLive

/-- The entries that are live at a time. -/
def live (s : Store α) (now : Nat) : List (StoreEntry α) := s.entries.filter (isLive s.settings now)

/-- The value that is found under a key at a time. -/
def get? (s : Store α) (now : Nat) (key : String) : Option α :=
  ((s.live now).find? (·.key == key)).map (·.value)

/-- The number of entries at a time. -/
def count (s : Store α) (now : Nat) : Nat := (s.live now).length

/-- Entries with one dropped if they are more than the capacity allows. -/
def cut (settings : StoreSettings) (victim : Victim) (entries : List (StoreEntry α)) :
    List (StoreEntry α) :=
  if entries.length ≤ settings.capacity then entries
  else (entries.eraseIdx (victim (entries.map (·.key)) % entries.length)).take settings.capacity

/-- The store with a value written under a key. -/
def insert (s : Store α) (now : Nat) (key : String) (v : α) : Store α :=
  { s with
    entries := cut s.settings s.victim (⟨key, v, now⟩ :: (s.live now).filter (·.key != key)) }

/-- The store with the value under a key changed, if there is one. This does not count as a write. -/
def update (s : Store α) (key : String) (f : α → α) : Store α :=
  { s with entries := s.entries.map fun e => if e.key == key then { e with value := f e.value } else e }

/-- The store without its entries. -/
def clear (s : Store α) : Store α := { s with entries := [] }

/-- Cut entries are as many as the capacity allows. -/
theorem length_cut_le (settings : StoreSettings) (victim : Victim)
    (entries : List (StoreEntry α)) :
    (cut settings victim entries).length ≤ settings.capacity := by
  unfold cut
  split
  · assumption
  · exact List.length_take_le ..

/-- Entries that the capacity allows are not cut. -/
theorem cut_of_length_le {settings : StoreSettings} {victim : Victim}
    {entries : List (StoreEntry α)} (h : entries.length ≤ settings.capacity) :
    cut settings victim entries = entries := if_pos h

end Store

end Stencil
