import Mathlib.Data.List.Nodup
import Stencil.Proofs.Store.Room

/-!
# How long entries stay

An entry is found until its time is over, until something else is written under its key, or until a
full store drops it. What is not found does not come back by itself, and what is found later was
found before:

> `get?_of_later`: time only takes entries away;
> `get?_of_insert`: so does a write under another key, at the moment when it is made.

Both hold of stores whose keys are `Distinct`, which every write keeps in force: without that an
entry could uncover an older one of its key. `All` is for what can be said of each entry by itself,
such as when it was written.
-/

namespace Stencil

namespace Store

variable {α : Type} {s : Store α} {now later : Nat} {key other : String} {v : α}

/-! ## Live entries -/

/-- What is live later is live already. -/
theorem isLive_of_later {settings : StoreSettings} {e : StoreEntry α} (hle : now ≤ later)
    (h : isLive settings later e = true) : isLive settings now e = true := by
  simp only [isLive, decide_eq_true_eq] at h ⊢
  omega

/-- What is found under a key is the value of a live entry of that key. -/
theorem exists_live_of_get? (h : s.get? now key = some v) :
    ∃ e ∈ s.entries, e.key = key ∧ e.value = v ∧ isLive s.settings now e = true := by
  obtain ⟨e, hfind, hv⟩ := Option.map_eq_some_iff.mp h
  obtain ⟨hmem, hlive⟩ := List.mem_filter.mp (List.mem_of_find?_eq_some hfind)
  have hkey : (e.key == key) = true :=
    List.find?_some (p := fun e : StoreEntry α => e.key == key) hfind
  exact ⟨e, hmem, beq_iff_eq.mp hkey, hv, hlive⟩

/-- Nothing is found under a key exactly when no entry of that key is live. -/
theorem get?_eq_none_iff :
    s.get? now key = none ↔ ∀ e ∈ s.entries, e.key = key → isLive s.settings now e = false := by
  simp only [get?, Option.map_eq_none_iff, List.find?_eq_none, live, List.mem_filter, and_imp,
    beq_iff_eq]
  constructor
  · intro h e hmem hkey
    exact Bool.eq_false_iff.mpr fun hlive => h e hmem hlive hkey
  · intro h e hmem hlive hkey
    exact Bool.eq_false_iff.mp (h e hmem hkey) hlive

/-- A change of values does not change which keys are found. -/
theorem get?_update (s : Store α) (now : Nat) (key : String) (f : α → α) (other : String) :
    (s.update key f).get? now other =
      if other = key then (s.get? now other).map f else s.get? now other := by
  simp only [get?, live, update]
  induction s.entries with
  | nil => simp
  | cons e rest ih =>
    have hlive : isLive s.settings now (if e.key == key then { e with value := f e.value } else e) =
        isLive s.settings now e := by
      by_cases hkey : e.key = key <;> simp [hkey, isLive]
    rw [List.map_cons, List.filter_cons, List.filter_cons, hlive]
    by_cases he : isLive s.settings now e = true
    · rw [if_pos he, if_pos he, List.find?_cons, List.find?_cons]
      by_cases hkey : e.key = key
      · by_cases hother : other = key
        · simp [hkey, hother]
        · have hne : (key == other) = false := by simpa using Ne.symm hother
          simpa [hkey, hother, hne] using ih
      · by_cases hother : e.key = other
        · have hne : other ≠ key := fun h => hkey (hother.trans h)
          simp [hother, hne]
        · have hb : (e.key == other) = false := by simpa using hother
          simpa [hkey, hb] using ih
    · rw [if_neg he, if_neg he]
      exact ih

/-! ## Distinct keys -/

/-- No two entries have the same key. -/
def Distinct (s : Store α) : Prop := (s.entries.map (·.key)).Nodup

theorem distinct_empty (settings : StoreSettings) (victim : Victim) :
    (empty settings victim : Store α).Distinct := List.nodup_nil

/-- No key is there twice in a store without entries. -/
theorem distinct_clear (s : Store α) : s.clear.Distinct := List.nodup_nil

/-- Cutting only drops. -/
theorem cut_sublist (settings : StoreSettings) (victim : Victim) (entries : List (StoreEntry α)) :
    (cut settings victim entries).Sublist entries := by
  unfold cut
  split
  · exact List.Sublist.refl _
  · exact (List.take_sublist _ _).trans (List.eraseIdx_sublist _ _)

namespace Distinct

/-- A write takes the place of what was under its key. -/
theorem insert (h : s.Distinct) (now : Nat) (key : String) (v : α) :
    (s.insert now key v).Distinct := by
  refine List.Sublist.nodup ((cut_sublist _ _ _).map _) ?_
  rw [List.map_cons, List.nodup_cons]
  refine ⟨fun hmem => ?_, ?_⟩
  · obtain ⟨e, he, hkey⟩ := List.mem_map.mp hmem
    exact bne_iff_ne.mp (List.mem_filter.mp he).2 hkey
  · have hkept : ((s.live now).filter (·.key != key)).Sublist s.entries :=
      List.filter_sublist.trans List.filter_sublist
    exact List.Sublist.nodup (hkept.map _) h

/-- A change of a value changes no key. -/
theorem update (h : s.Distinct) (key : String) (f : α → α) : (s.update key f).Distinct := by
  have hkeys : (s.update key f).entries.map (·.key) = s.entries.map (·.key) := by
    simp only [Store.update, List.map_map]
    refine List.map_congr_left fun e _ => ?_
    by_cases hkey : e.key = key <;> simp [hkey]
  rw [Distinct, hkeys]
  exact h

/-- Entries of the same key are the same. -/
theorem eq_of_key (h : s.Distinct) {e e' : StoreEntry α} (he : e ∈ s.entries)
    (he' : e' ∈ s.entries) (hkey : e.key = e'.key) : e = e' :=
  List.inj_on_of_nodup_map h he he' hkey

/-- With distinct keys, a live entry is what is found under its key. -/
theorem get?_of_mem (h : s.Distinct) {e : StoreEntry α} (hmem : e ∈ s.entries)
    (hlive : isLive s.settings now e = true) : s.get? now e.key = some e.value := by
  cases hget : s.get? now e.key with
  | none =>
    have hdead := get?_eq_none_iff.mp hget e hmem rfl
    rw [hlive] at hdead
    cases hdead
  | some v =>
    obtain ⟨e', hmem', hkey, hvalue, -⟩ := exists_live_of_get? hget
    rw [← hvalue, h.eq_of_key hmem' hmem hkey]

/-- Time only takes entries away. -/
theorem get?_of_later (h : s.Distinct) (hle : now ≤ later) (hget : s.get? later key = some v) :
    s.get? now key = some v := by
  obtain ⟨e, hmem, rfl, rfl, hlive⟩ := exists_live_of_get? hget
  exact h.get?_of_mem hmem (isLive_of_later hle hlive)

/-- What is found under another key after a write was found there before. -/
theorem get?_of_insert (h : s.Distinct) (hne : key ≠ other) {written : α}
    (hget : (s.insert now other written).get? now key = some v) : s.get? now key = some v := by
  obtain ⟨e, hmem, rfl, rfl, hlive⟩ := exists_live_of_get? hget
  rcases mem_insert hmem with rfl | hold
  · exact absurd rfl hne
  · exact h.get?_of_mem hold hlive

end Distinct

/-! ## Every entry -/

/-- After a write an entry is the new one, or one from before that has another key. -/
theorem eq_or_ne_of_mem_insert {e : StoreEntry α} (h : e ∈ (s.insert now key v).entries) :
    e = ⟨key, v, now⟩ ∨ e ∈ s.entries ∧ e.key ≠ key := by
  rcases List.mem_cons.mp (mem_of_mem_cut h) with hnew | hold
  · exact Or.inl hnew
  · obtain ⟨hlive, hne⟩ := List.mem_filter.mp hold
    exact Or.inr ⟨(List.mem_filter.mp hlive).1, bne_iff_ne.mp hne⟩

/-- What is found under the key of a write is what was written. -/
theorem eq_of_get?_insert {written : α}
    (hget : (s.insert now key written).get? later key = some v) :
    v = written := by
  obtain ⟨e, hmem, hkey, rfl, -⟩ := exists_live_of_get? hget
  rcases eq_or_ne_of_mem_insert hmem with rfl | ⟨-, hne⟩
  · rfl
  · exact absurd hkey hne

/-- Every entry is as required. -/
def All (p : StoreEntry α → Prop) (s : Store α) : Prop := ∀ e ∈ s.entries, p e

namespace All

variable {p q : StoreEntry α → Prop}

theorem mono (h : s.All p) (hpq : ∀ e, p e → q e) : s.All q := fun e hmem => hpq e (h e hmem)

/-- A write adds only its own entry. -/
theorem insert (h : s.All p) (hnew : p ⟨key, v, now⟩) : (s.insert now key v).All p := by
  intro e hmem
  rcases mem_insert hmem with rfl | hold
  · exact hnew
  · exact h e hold

/-- A change of a value concerns only the entries under its key. -/
theorem update (h : s.All p) {f : α → α}
    (hf : ∀ e ∈ s.entries, e.key = key → p e → p { e with value := f e.value }) :
    (s.update key f).All p := by
  intro e hmem
  rcases mem_update hmem with hold | ⟨old, hold, hkey, rfl⟩
  · exact h e hold
  · exact hf old hold hkey (h old hold)

/-- Nothing has to hold of a store without entries. -/
theorem clear (p : StoreEntry α → Prop) (s : Store α) : s.clear.All p :=
  fun _ hmem => nomatch hmem

end All

end Store

end Stencil
