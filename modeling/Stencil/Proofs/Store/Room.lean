import Stencil.Store

/-!
# Stores that find room for what is written

Which entry a full store drops is left open, so two stores of the same contents may part ways once
one of them is full. While every write finds room (`Store.HasRoom`) they do not: what a store is
asked for and what a write makes of it depend on its `contents` alone, which leave out what would
be dropped. That is

> `contents_insert`: a write that finds room has the same effect on stores of the same contents.

A store that may hold nothing drops every write at once, whatever its choice would be, so a write
to it counts as one that finds room.

The other facts say where entries come from (`mem_insert`, `mem_update`, `exists_of_get?`): an
entry is one that was written, with the value that was written or changed later.
-/

namespace Stencil

namespace Store

variable {α : Type}

/-- What a store holds and for how long, without what it drops when it is full. -/
def contents (s : Store α) : StoreSettings × List (StoreEntry α) := (s.settings, s.entries)

/-- A write under a key drops no other entry. -/
def HasRoom (s : Store α) (now : Nat) (key : String) : Prop :=
  s.settings.capacity = 0 ∨ ((s.live now).filter (·.key != key)).length < s.settings.capacity

instance (s : Store α) (now : Nat) (key : String) : Decidable (s.HasRoom now key) :=
  inferInstanceAs (Decidable (_ ∨ _))

/-! ## Settings -/

/-- A write changes no settings. -/
theorem settings_insert (s : Store α) (now : Nat) (key : String) (v : α) :
    (s.insert now key v).settings = s.settings := rfl

/-- Nor does a change of a value. -/
theorem settings_update (s : Store α) (key : String) (f : α → α) :
    (s.update key f).settings = s.settings := rfl

/-- Nor does a clearing. -/
theorem settings_clear (s : Store α) : s.clear.settings = s.settings := rfl

/-! ## Contents -/

section Contents

variable {s t : Store α}

private theorem get?_congr (h : s.contents = t.contents) (now : Nat) (key : String) :
    s.get? now key = t.get? now key := by
  obtain ⟨hs, he⟩ := Prod.mk.inj h
  simp only [get?, live, hs, he]

private theorem count_congr (h : s.contents = t.contents) (now : Nat) :
    s.count now = t.count now := by
  obtain ⟨hs, he⟩ := Prod.mk.inj h
  simp only [count, live, hs, he]

private theorem contents_clear (h : s.settings = t.settings) :
    s.clear.contents = t.clear.contents := by
  simp only [contents, clear, h]

/-- Stores with the same contents have the same contents after a value was changed. -/
theorem contents_update (h : s.contents = t.contents) (key : String) (f : α → α) :
    (s.update key f).contents = (t.update key f).contents := by
  obtain ⟨hs, he⟩ := Prod.mk.inj h
  simp only [contents, update, hs, he]

end Contents

/-- Entries that may not stay are all cut. -/
theorem cut_of_capacity_eq_zero {settings : StoreSettings} (h : settings.capacity = 0)
    (victim : Victim) (entries : List (StoreEntry α)) : cut settings victim entries = [] := by
  have hlen := length_cut_le settings victim entries
  rw [h] at hlen
  exact List.eq_nil_of_length_eq_zero (Nat.le_zero.mp hlen)

/-- A write that drops no other entry adds its own. -/
theorem entries_insert {s : Store α} {now : Nat} {key : String}
    (h : ((s.live now).filter (·.key != key)).length < s.settings.capacity) (v : α) :
    (s.insert now key v).entries = ⟨key, v, now⟩ :: (s.live now).filter (·.key != key) :=
  cut_of_length_le (List.length_cons ▸ h)

/-- A write that finds room does not depend on what a full store drops. -/
theorem contents_insert {s t : Store α} (h : s.contents = t.contents) {now : Nat} {key : String}
    (room : s.HasRoom now key) (v : α) :
    (s.insert now key v).contents = (t.insert now key v).contents := by
  obtain ⟨hs, he⟩ := Prod.mk.inj h
  simp only [contents, insert, live, ← hs, ← he]
  -- In both cases nothing is left to choose: either nothing stays, or everything does.
  rcases room with hzero | hlt
  · rw [cut_of_capacity_eq_zero hzero, cut_of_capacity_eq_zero hzero]
  · have hfit : ((⟨key, v, now⟩ : StoreEntry α) ::
        ((s.entries.filter (isLive s.settings now)).filter (·.key != key))).length
          ≤ s.settings.capacity := hlt
    rw [cut_of_length_le hfit, cut_of_length_le hfit]

/-! ## Stores that may be missing -/

section Missing

variable {s t : Option (Store α)}

/-- Either both stores are missing, or both are there and have the same contents. -/
theorem cases_of_map_contents_eq (h : s.map contents = t.map contents) :
    (s = none ∧ t = none) ∨ ∃ a b, s = some a ∧ t = some b ∧ a.contents = b.contents := by
  cases s with
  | none => exact Or.inl ⟨rfl, Option.map_eq_none_iff.mp h.symm⟩
  | some a =>
    obtain ⟨b, hb, hc⟩ := Option.map_eq_some_iff.mp h.symm
    exact Or.inr ⟨a, b, rfl, hb, hc.symm⟩

/-- Stores with the same contents find the same. -/
theorem bind_get?_congr (h : s.map contents = t.map contents) (now : Nat) (key : String) :
    (s.bind fun store => store.get? now key) = t.bind fun store => store.get? now key := by
  rcases cases_of_map_contents_eq h with ⟨rfl, rfl⟩ | ⟨a, b, rfl, rfl, hc⟩
  · rfl
  · exact get?_congr hc now key

/-- They count the same. -/
theorem map_count_congr (h : s.map contents = t.map contents) (now : Nat) :
    (s.map fun store => store.count now) = t.map fun store => store.count now := by
  rcases cases_of_map_contents_eq h with ⟨rfl, rfl⟩ | ⟨a, b, rfl, rfl, hc⟩
  · rfl
  · exact congrArg some (count_congr hc now)

/-- What has the same effect on the contents of stores has it on those of stores that may be
missing. -/
theorem map_contents_congr (h : s.map contents = t.map contents) {f : Store α → Store α}
    (hf : ∀ a ∈ s, ∀ b : Store α, a.contents = b.contents → (f a).contents = (f b).contents) :
    (s.map f).map contents = (t.map f).map contents := by
  rcases cases_of_map_contents_eq h with ⟨rfl, rfl⟩ | ⟨a, b, rfl, rfl, hc⟩
  · rfl
  · exact congrArg some (hf a rfl b hc)

/-- What leaves the settings of stores as they are leaves those of stores that may be missing. -/
theorem map_settings_map {f : Store α → Store α} (hf : ∀ a : Store α, (f a).settings = a.settings)
    (s : Option (Store α)) : (s.map f).map settings = s.map settings := by
  cases s with
  | none => rfl
  | some a => exact congrArg some (hf a)

/-- Stores of the same contents are the same once they are cleared. -/
theorem map_contents_clear (h : s.map contents = t.map contents) :
    (s.map clear).map contents = (t.map clear).map contents :=
  map_contents_congr h fun _ _ _ hc => contents_clear (congrArg Prod.fst hc)

end Missing

/-! ## Where entries come from -/

/-- What is found under a key is the value of an entry of that key. -/
theorem exists_of_get? {s : Store α} {now : Nat} {key : String} {v : α}
    (h : s.get? now key = some v) : ∃ e ∈ s.entries, e.key = key ∧ e.value = v := by
  obtain ⟨e, hfind, hv⟩ := Option.map_eq_some_iff.mp h
  have hmem := List.mem_of_find?_eq_some hfind
  have hkey : (e.key == key) = true :=
    List.find?_some (p := fun e : StoreEntry α => e.key == key) hfind
  exact ⟨e, (List.mem_filter.mp hmem).1, beq_iff_eq.mp hkey, hv⟩

/-- Cutting adds no entry. -/
theorem mem_of_mem_cut {settings : StoreSettings} {victim : Victim} {entries : List (StoreEntry α)}
    {e : StoreEntry α} (h : e ∈ cut settings victim entries) : e ∈ entries := by
  unfold cut at h
  split at h
  · exact h
  · exact List.mem_of_mem_eraseIdx (List.mem_of_mem_take h)

/-- After a write an entry is the new one or was there before. -/
theorem mem_insert {s : Store α} {now : Nat} {key : String} {v : α} {e : StoreEntry α}
    (h : e ∈ (s.insert now key v).entries) : e = ⟨key, v, now⟩ ∨ e ∈ s.entries := by
  rcases List.mem_cons.mp (mem_of_mem_cut h) with hnew | hold
  · exact Or.inl hnew
  · exact Or.inr (List.mem_filter.mp (List.mem_filter.mp hold).1).1

/-- After a change an entry is one from before, its value changed if it has the key. -/
theorem mem_update {s : Store α} {key : String} {f : α → α} {e : StoreEntry α}
    (h : e ∈ (s.update key f).entries) :
    e ∈ s.entries ∨ ∃ old ∈ s.entries, old.key = key ∧ e = { old with value := f old.value } := by
  obtain ⟨old, hold, heq⟩ := List.mem_map.mp h
  by_cases hkey : old.key = key
  · rw [if_pos (beq_iff_eq.mpr hkey)] at heq
    exact Or.inr ⟨old, hold, hkey, heq.symm⟩
  · rw [if_neg (fun hb => hkey (beq_iff_eq.mp hb))] at heq
    exact Or.inl (heq ▸ hold)

end Store

end Stencil
