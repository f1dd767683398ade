import Stencil.Proofs.Store.Lifetime

/-!
# What a store recalls

A store to which everything was written that had a place in it finds under a key what was written
there last, as long as that is young enough:

> `Recalls.insert`: a write that has a place is recalled from then on, and what was recalled under
> other keys is recalled as before.

Here a write has a place if it drops no other entry and stays itself (`HasPlace`); a store that may
hold nothing has a place for no write.
-/

namespace Stencil

namespace Store

variable {α : Type} {s : Store α} {now later : Nat} {key other : String} {v : α}

/-- A write under a key drops no entry of another key, and stays. -/
def HasPlace (s : Store α) (now : Nat) (key : String) : Prop :=
  ((s.live now).filter (·.key != key)).length < s.settings.capacity

instance (s : Store α) (now : Nat) (key : String) : Decidable (s.HasPlace now key) :=
  inferInstanceAs (Decidable (_ < _))

/-- After a write that has a place, its entry is the only one of its key. -/
theorem entries_of_key_insert (h : s.HasPlace now key) (v : α) :
    (s.insert now key v).entries.filter (·.key == key) = [⟨key, v, now⟩] := by
  rw [entries_insert h, List.filter_cons, if_pos (beq_self_eq_true key), List.filter_filter]
  refine congrArg _ (List.filter_eq_nil_iff.mpr fun e _ => ?_)
  rw [bne, Bool.and_not_self]
  exact Bool.false_ne_true

/-- A write that has a place is found as long as it lives. -/
theorem get?_insert_self (h : s.HasPlace now key) (v : α) (later : Nat) :
    (s.insert now key v).get? later key =
      if isLive s.settings later (⟨key, v, now⟩ : StoreEntry α) then some v else none := by
  have hrest : (((s.live now).filter (·.key != key)).filter (isLive s.settings later)).find?
      (·.key == key) = none := by
    refine List.find?_eq_none.mpr fun e he => ?_
    have hne := (List.mem_filter.mp (List.mem_filter.mp he).1).2
    exact fun heq => bne_iff_ne.mp hne (beq_iff_eq.mp heq)
  rw [get?, live, entries_insert h, settings_insert, List.filter_cons]
  split
  · rw [List.find?_cons, beq_self_eq_true]
    rfl
  · rw [hrest]
    rfl

/-- A write that has a place changes nothing under other keys, now or later. -/
theorem get?_insert_of_ne (h : s.HasPlace now key) (v : α) (hle : now ≤ later)
    (hne : other ≠ key) : (s.insert now key v).get? later other = s.get? later other := by
  have hnew : (key == other) = false := beq_eq_false_iff_ne.mpr hne.symm
  -- What is left out of the old entries is dead by then, or has the other key.
  have hold : ((((s.live now).filter (·.key != key)).filter (isLive s.settings later)).find?
      (·.key == other)) = (s.live later).find? (·.key == other) := by
    rw [live, live, List.filter_filter, List.filter_filter, List.find?_filter, List.find?_filter]
    refine congrArg (List.find? · s.entries) (funext fun e => decide_eq_decide.mpr ?_)
    simp only [Bool.and_eq_true, bne_iff_ne, beq_iff_eq]
    constructor
    · rintro ⟨⟨⟨hlive, -⟩, -⟩, hkey⟩
      exact ⟨hlive, hkey⟩
    · rintro ⟨hlive, hkey⟩
      exact ⟨⟨⟨hlive, hkey.symm ▸ hne⟩, isLive_of_later hle hlive⟩, hkey⟩
  rw [get?, live, entries_insert h, settings_insert, List.filter_cons, get?]
  split
  · rw [List.find?_cons, hnew, hold]
  · rw [hold]

/-! ## The latest writes -/

/-- The last of some writes with a key. The writes are listed with the latest first. -/
def latest? (key : String) (writes : List (StoreEntry α)) : Option (StoreEntry α) :=
  writes.find? (·.key == key)

private theorem latest?_cons_self (key : String) (v : α) (now : Nat)
    (writes : List (StoreEntry α)) :
    latest? key (⟨key, v, now⟩ :: writes) = some ⟨key, v, now⟩ := by
  rw [latest?, List.find?_cons, beq_self_eq_true]

/-- A write under another key changes nothing of what was written last. -/
private theorem latest?_cons_of_ne (hne : other ≠ key) (v : α) (now : Nat)
    (writes : List (StoreEntry α)) :
    latest? other (⟨key, v, now⟩ :: writes) = latest? other writes := by
  rw [latest?, List.find?_cons, beq_eq_false_iff_ne.mpr hne.symm, latest?]

/-- From some moment on, what is found under a key is what was written there last, as long as that
is young enough. -/
def Recalls (s : Store α) (writes : List (StoreEntry α)) (now : Nat) : Prop :=
  ∀ later, now ≤ later → ∀ key,
    s.get? later key = ((latest? key writes).filter (isLive s.settings later)).map (·.value)

namespace Recalls

variable {writes : List (StoreEntry α)}

theorem empty (settings : StoreSettings) (victim : Victim) (now : Nat) :
    (Store.empty settings victim : Store α).Recalls [] now := fun _ _ _ => rfl

/-- A store that was cleared recalls that nothing has been written since. -/
theorem clear (s : Store α) (now : Nat) : s.clear.Recalls [] now := fun _ _ _ => rfl

/-- Time passes for the writes as it does for the store. -/
theorem of_later (h : s.Recalls writes now) (hle : now ≤ later) : s.Recalls writes later :=
  fun time htime => h time (Nat.le_trans hle htime)

/-- A write that finds a place is the last of the writes. -/
theorem insert (h : s.Recalls writes now) (hplace : s.HasPlace now key) (v : α) :
    (s.insert now key v).Recalls (⟨key, v, now⟩ :: writes) now := by
  intro later hle other
  rw [settings_insert]
  by_cases hother : other = key
  · subst hother
    rw [get?_insert_self hplace, latest?_cons_self, Option.filter_some]
    split <;> rfl
  · rw [get?_insert_of_ne hplace v hle hother, latest?_cons_of_ne hother, h later hle other]

end Recalls

end Store

end Stencil
