import Stencil.Proofs.Store.Lifetime

/-!
# Stores that nobody can tell apart

What is asked of a store, and what a write makes of it, depends on its live entries alone: an entry
whose time is over might as well not be there. So two stores that hold the same live entries, and
drop the same one when they are full, can take each other's place from now on; and a store in which
no entry ever becomes live can be left out (`StoreSettings.IsDegenerate`).

`Exchangeable` says both of stores that may be missing. Every operation of a store keeps it, and so
does time:

> `bind_get?_eq`, `count_eq`: exchangeable stores answer alike;
> `insert`, `update`, `clear`, `later`: and they stay exchangeable.

No write has to find room for that, since what a full store drops is the same in both.
-/

namespace Stencil

/-- With these settings no entry is ever found: it is over as soon as it is written, or there is no
place for it. -/
def StoreSettings.IsDegenerate (s : StoreSettings) : Prop := s.timeToLive = 0 ∨ s.capacity = 0

instance (s : StoreSettings) : Decidable s.IsDegenerate := inferInstanceAs (Decidable (_ ∨ _))

namespace Store

variable {α : Type}

/-- What is live later is live already. -/
theorem live_of_le (s : Store α) {now later : Nat} (h : now ≤ later) :
    s.live later = (s.live now).filter (isLive s.settings later) := by
  rw [live, live, List.filter_filter]
  refine List.filter_congr fun e _ => ?_
  cases hlive : isLive s.settings later e with
  | false => rfl
  | true => simp [isLive_of_later h hlive]

/-- A change of values leaves the live entries at their places. -/
theorem live_update (s : Store α) (key : String) (f : α → α) (now : Nat) :
    (s.update key f).live now =
      (s.live now).map fun e => if e.key == key then { e with value := f e.value } else e := by
  rw [live, update, live, List.filter_map]
  refine congrArg _ (List.filter_congr fun e _ => ?_)
  by_cases hkey : e.key = key <;> simp [hkey, isLive]

/-- With degenerate settings nothing is live when it has been written. -/
theorem live_insert_of_isDegenerate {s : Store α} (h : s.settings.IsDegenerate) (now : Nat)
    (key : String) (v : α) : (s.insert now key v).live now = [] := by
  rcases h with hzero | hzero
  · refine List.filter_eq_nil_iff.mpr fun e _ => ?_
    simp [isLive, settings_insert, hzero]
  · rw [live, insert, cut_of_capacity_eq_zero hzero]
    rfl

/-- What is asked of the stores gives the same from now on: they have the same live entries and
drop the same ones, or there is none in the place of one that never finds anything. -/
inductive Exchangeable (now : Nat) : Option (Store α) → Option (Store α) → Prop
  | absent : Exchangeable now none none
  | present {s t : Store α} (settings : s.settings = t.settings) (victim : s.victim = t.victim)
      (live : s.live now = t.live now) : Exchangeable now (some s) (some t)
  | idle {s : Store α} (degenerate : s.settings.IsDegenerate) (live : s.live now = []) :
      Exchangeable now (some s) none

namespace Exchangeable

variable {now : Nat} {s t : Option (Store α)}

theorem refl (now : Nat) (s : Option (Store α)) : Exchangeable now s s := by
  cases s with
  | none => exact .absent
  | some store => exact .present rfl rfl rfl

/-- A new store can be left out if its settings are degenerate. -/
theorem filter_empty (now : Nat) (settings : Option StoreSettings) (victim : Victim) :
    Exchangeable now (settings.map fun s => (.empty s victim : Store α))
      ((settings.filter fun s => !decide s.IsDegenerate).map fun s => .empty s victim) := by
  cases settings with
  | none => exact .absent
  | some given =>
    by_cases h : given.IsDegenerate
    · simp only [Option.filter_some, h, decide_true, Bool.not_true, Bool.false_eq_true, if_false]
      exact .idle h rfl
    · simp only [Option.filter_some, h, decide_false, Bool.not_false, if_true]
      exact .refl now _

/-- Time takes the same entries from both. -/
theorem later (h : Exchangeable now s t) {later : Nat} (hle : now ≤ later) :
    Exchangeable later s t := by
  cases h with
  | absent => exact .absent
  | present settings victim live =>
    refine .present settings victim ?_
    rw [live_of_le _ hle, live_of_le _ hle, settings, live]
  | idle degenerate live =>
    refine .idle degenerate ?_
    rw [live_of_le _ hle, live, List.filter_nil]

/-- What is found under a key is the same. -/
theorem bind_get?_eq (h : Exchangeable now s t) (key : String) :
    (s.bind fun store => store.get? now key) = t.bind fun store => store.get? now key := by
  cases h with
  | absent => rfl
  | present settings victim live => simp only [Option.bind_some, get?, live]
  | idle degenerate live => simp [get?, live]

/-- The number of entries is the same; a store that is missing has none. -/
theorem count_eq (h : Exchangeable now s t) :
    (s.map fun store => store.count now).getD 0 = (t.map fun store => store.count now).getD 0 := by
  cases h with
  | absent => rfl
  | present settings victim live => simp only [Option.map_some, count, live]
  | idle degenerate live => simp [count, live]

/-- A write leaves stores exchangeable, though they may drop different entries when they are full.
-/
theorem insert (h : Exchangeable now s t) (key : String) (v : α) :
    Exchangeable now (s.map fun store => store.insert now key v)
      (t.map fun store => store.insert now key v) := by
  cases h with
  | absent => exact .absent
  | @present s t settings victim live =>
    have hentries : (s.insert now key v).entries = (t.insert now key v).entries := by
      simp only [Store.insert, settings, victim, live]
    refine .present settings victim ?_
    rw [Store.live, Store.live, hentries, settings_insert, settings_insert, settings]
  | idle degenerate live =>
    exact .idle degenerate (live_insert_of_isDegenerate degenerate now key v)

/-- So does a change of a value. -/
theorem update (h : Exchangeable now s t) (key : String) (f : α → α) :
    Exchangeable now (s.map fun store => store.update key f)
      (t.map fun store => store.update key f) := by
  cases h with
  | absent => exact .absent
  | present settings victim live =>
    refine .present settings victim ?_
    rw [live_update, live_update, live]
  | idle degenerate live =>
    refine .idle degenerate ?_
    rw [live_update, live, List.map_nil]

/-- So does a clearing. -/
theorem clear (h : Exchangeable now s t) :
    Exchangeable now (s.map Store.clear) (t.map Store.clear) := by
  cases h with
  | absent => exact .absent
  | present settings victim live => exact .present settings victim rfl
  | idle degenerate live => exact .idle degenerate rfl

/-- A store without live entries can take the place of itself without any. -/
theorem clear_self (h : ∀ store ∈ s, store.live now = []) :
    Exchangeable now (s.map Store.clear) s := by
  cases s with
  | none => exact .absent
  | some store => exact .present rfl rfl (h store rfl).symm

end Exchangeable

end Store

end Stencil
