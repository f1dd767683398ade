import Stencil.Proofs.Source.Answers

/-!
# How a chain fails

A chain asks its sources one after the other and stops at the first that does not lack the name,
whether that one has the template or cannot tell. So a source that cannot tell is not passed over:

> `answer_chain_eq_error_iff`: a chain fails exactly if the first of its sources that does not lack
> the name fails;
> `load_chain_of_answer_error`: the sources behind that one are not asked, so they might as well not
> be there.

Of the files below a directory, the ones that cannot be told are those that are there and are not
text (`answer_files_eq_error_iff`).
-/

namespace Stencil

namespace Source

section Chains

variable {s : Source} {name : String} {w : World}

/-- A source that lacks the name is passed over. -/
theorem loadFirst_of_lacking (h : s.answer name w = .ok none) (rest : List Source) :
    loadFirst name (s :: rest) w = loadFirst name rest (s.load name w).2 := by
  rw [answer] at h
  rw [loadFirst]
  rcases hl : s.load name w with ⟨r, v⟩
  rw [hl] at h
  have h : r = .ok none := h
  subst h
  rfl

/-- Any other source is the last that is asked. -/
theorem loadFirst_of_telling (h : s.answer name w ≠ .ok none) (rest : List Source) :
    loadFirst name (s :: rest) w = s.load name w := by
  rw [answer] at h
  rw [loadFirst]
  split
  next v heq =>
    rw [heq] at h
    exact absurd rfl h
  next => rfl

/-- A source that lacks the name is passed over. -/
theorem answer_chain_of_lacking (h : s.answer name w = .ok none) (rest : List Source) :
    (chain (s :: rest)).answer name w = (chain rest).answer name w := by
  rw [← answer_alike name (chain rest) (s.load_alike name w), answer, answer, load, load,
    loadFirst_of_lacking h]

/-- A source that does not lack the name decides. -/
theorem answer_chain_of_telling (h : s.answer name w ≠ .ok none) (rest : List Source) :
    (chain (s :: rest)).answer name w = s.answer name w := by
  rw [answer, answer, load, loadFirst_of_telling h]

end Chains

variable {name reason : String} {s : Source}

/-- What is behind a source that fails makes no difference, not even to what recordings note. -/
theorem load_chain_of_answer_error (after : List Source) :
    ∀ {before : List Source} {w : World}, (∀ t ∈ before, t.answer name w = .ok none) →
      s.answer name w = .error reason →
        load name (chain (before ++ s :: after)) w = load name (chain (before ++ [s])) w
  | [], w, _, hs => by
    have htelling : s.answer name w ≠ .ok none := fun h => nomatch hs.symm.trans h
    rw [List.nil_append, List.nil_append, load, load, loadFirst_of_telling htelling,
      loadFirst_of_telling htelling]
  | t :: before, w, hbefore, hs => by
    obtain ⟨ht, hrest⟩ := List.forall_mem_cons.mp hbefore
    -- The sources that are left are asked in a world where one look-up more is noted.
    have hlater : load name (chain (before ++ s :: after)) (t.load name w).2 =
        load name (chain (before ++ [s])) (t.load name w).2 :=
      load_chain_of_answer_error after
        (fun u hu => (answer_load t u name name w).trans (hrest u hu))
        ((answer_load t s name name w).trans hs)
    simp only [load] at hlater
    rw [List.cons_append, List.cons_append, load, load, loadFirst_of_lacking ht,
      loadFirst_of_lacking ht, hlater]

/-- The answer of a source that does not lack the name is that of the chain, if those before it lack
the name. -/
theorem answer_chain_of_first {w : World} (hs : s.answer name w ≠ .ok none) (after : List Source) :
    ∀ {before : List Source}, (∀ t ∈ before, t.answer name w = .ok none) →
      (chain (before ++ s :: after)).answer name w = s.answer name w
  | [], _ => answer_chain_of_telling hs after
  | _ :: _, hbefore => by
    obtain ⟨ht, hrest⟩ := List.forall_mem_cons.mp hbefore
    rw [List.cons_append, answer_chain_of_lacking ht]
    exact answer_chain_of_first hs after hrest

/-- A chain has something to answer exactly if the first of its sources that does not lack the name
answers that. -/
theorem answer_chain_eq_iff {sources : List Source} {w : World}
    {told : Except String (Option Loaded)} (htold : told ≠ .ok none) :
    (chain sources).answer name w = told ↔
      ∃ before s after, sources = before ++ s :: after ∧
        (∀ t ∈ before, t.answer name w = .ok none) ∧ s.answer name w = told := by
  constructor
  · intro h
    induction sources with
    | nil => exact absurd h.symm htold
    | cons t rest ih =>
      by_cases ht : t.answer name w = .ok none
      · rw [answer_chain_of_lacking ht] at h
        obtain ⟨before, s, after, rfl, hbefore, hs⟩ := ih h
        exact ⟨t :: before, s, after, rfl, List.forall_mem_cons.mpr ⟨ht, hbefore⟩, hs⟩
      · rw [answer_chain_of_telling ht] at h
        exact ⟨[], t, rest, rfl, List.forall_mem_nil _, h⟩
  · rintro ⟨before, s, after, rfl, hbefore, rfl⟩
    exact answer_chain_of_first htold after hbefore

/-- A chain fails exactly if the first of its sources that does not lack the name fails. -/
theorem answer_chain_eq_error_iff {sources : List Source} {w : World} :
    (chain sources).answer name w = .error reason ↔
      ∃ before s after, sources = before ++ s :: after ∧
        (∀ t ∈ before, t.answer name w = .ok none) ∧ s.answer name w = .error reason := by
  refine answer_chain_eq_iff ?_
  exact nofun

/-- Files fail exactly if the name leads to a file below the directory that is not text. -/
theorem answer_files_eq_error_iff {root : String} {tier : Tier} {w : World} :
    (files root tier).answer name w = .error reason ↔
      Path.isContained name = true ∧ reason = ReadProblem.notText.message ∧
        ∃ bytes, w.files.read? (Path.join root name) = some bytes ∧
          String.fromUTF8? bytes = none := by
  simp only [answer, load, loadFile, FileTree.readText]
  cases Path.isContained name with
  | false => simp
  | true =>
    cases w.files.read? (Path.join root name) with
    | none => cases w.files.isDirectory (Path.join root name) <;> simp
    | some bytes => cases h : String.fromUTF8? bytes <;> simp [h, eq_comm]

end Source

end Stencil
