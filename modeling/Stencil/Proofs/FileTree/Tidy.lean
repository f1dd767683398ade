import Stencil.Proofs.FileTree.Below

/-!
# Tidy names

A name is tidy if it is spelled without detours: its pieces are neither empty nor dots. A tidy name
is contained (`Tidy.isContained`), and it is the only tidy one for its place, because pieces and
names determine each other:

> `segments_intercalate`, `intercalate_segments`: the pieces of names joined by slashes are those
> names, and a name is its pieces joined by slashes.
-/

namespace Stencil.Path

/-- A piece that leads one step down. -/
def LeadsDown (s : String) : Prop := s ≠ "" ∧ s ≠ "." ∧ s ≠ ".."

/-- A name all of whose pieces lead one step down. -/
def Tidy (name : String) : Prop := ∀ s ∈ segments name, LeadsDown s

instance (s : String) : Decidable (LeadsDown s) := inferInstanceAs (Decidable (_ ∧ _))

instance (name : String) : Decidable (Tidy name) :=
  inferInstanceAs (Decidable (∀ s ∈ segments name, LeadsDown s))

/-- A text that a file system can have as the name of a file or a directory. -/
structure IsName (s : String) : Prop where
  leadsDown : LeadsDown s
  slashless : '/' ∉ s.toList
  nulless : '\x00' ∉ s.toList
  short : s.utf8ByteSize ≤ FileTree.segmentLimit

instance (s : String) : Decidable (IsName s) :=
  decidable_of_iff (LeadsDown s ∧ '/' ∉ s.toList ∧ '\x00' ∉ s.toList ∧
      s.utf8ByteSize ≤ FileTree.segmentLimit)
    ⟨fun h => ⟨h.1, h.2.1, h.2.2.1, h.2.2.2⟩,
      fun h => ⟨h.leadsDown, h.slashless, h.nulless, h.short⟩⟩

private theorem Component.ofSegment?_of_leadsDown {s : String} (h : LeadsDown s) :
    ofSegment? s = some (.name s) := by
  obtain ⟨hempty, hhere, hup⟩ := h
  simp [ofSegment?, hempty, hhere, hup]

private theorem empty_mem_segments_of_isAbsolute {path : String} (h : isAbsolute path = true) :
    "" ∈ segments path := by
  unfold isAbsolute at h
  split at h
  next rest hpath =>
    rw [segments, hpath, pieces, beq_self_eq_true, if_pos rfl, List.map_cons]
    exact List.mem_cons_self
  next => cases h

namespace Tidy

variable {name : String}

private theorem ne_empty (h : Tidy name) : name ≠ "" := by
  rintro rfl
  exact (h "" (List.mem_singleton_self _)).1 rfl

/-- A tidy name does not start at the root. -/
theorem isAbsolute_eq_false (h : Tidy name) : isAbsolute name = false := by
  refine eq_false_of_ne_true fun habsolute => ?_
  exact (h "" (empty_mem_segments_of_isAbsolute habsolute)).1 rfl

/-- All the components of a tidy name are names. -/
theorem components_eq (h : Tidy name) : components name = (segments name).map .name := by
  have hhere : ((segments name).head? == some ".") = false := by
    refine beq_eq_false_iff_ne.mpr fun hhead => ?_
    exact (h "." (List.mem_of_head? hhead)).2.1 rfl
  rw [components, h.isAbsolute_eq_false, hhere, ← List.filterMap_eq_map]
  exact List.filterMap_congr fun s hs => Component.ofSegment?_of_leadsDown (h s hs)

/-- Nor does it lead out of the directory. -/
theorem isContained (h : Tidy name) : Path.isContained name = true := by
  have hempty : name.isEmpty = false := by simpa using h.ne_empty
  rw [Path.isContained, hempty, h.components_eq, List.all_map]
  exact List.all_eq_true.mpr fun s _ => rfl

end Tidy

private theorem pieces_of_notMem {separator : Char} : ∀ {cs : List Char}, separator ∉ cs →
    pieces separator cs = [cs]
  | [], _ => rfl
  | c :: cs, h => by
    obtain ⟨hc, hcs⟩ := List.ne_and_not_mem_of_not_mem_cons h
    rw [pieces, beq_eq_false_iff_ne.mpr hc.symm, pieces_of_notMem hcs]
    rfl

private theorem segments_of_slashless {s : String} (h : '/' ∉ s.toList) : segments s = [s] := by
  rw [segments, pieces_of_notMem h, List.map_singleton, String.ofList_toList]

/-- The pieces of a path made of names are those names. -/
theorem segments_intercalate : ∀ {names : List String}, names ≠ [] →
    (∀ s ∈ names, '/' ∉ s.toList) → segments ("/".intercalate names) = names
  | [], h, _ => absurd rfl h
  | [s], _, h => by
    rw [String.intercalate_singleton]
    exact segments_of_slashless (h s (List.mem_singleton_self s))
  | s :: t :: names, _, h => by
    obtain ⟨hs, hrest⟩ := List.forall_mem_cons.mp h
    rw [String.intercalate_cons_cons, segments_append_slash, segments_of_slashless hs,
      segments_intercalate (List.cons_ne_nil t names) hrest]
    rfl

/-- A path is made of its pieces. -/
theorem intercalate_pieces (separator : Char) : ∀ cs : List Char,
    [separator].intercalate (pieces separator cs) = cs
  | [] => rfl
  | c :: cs => by
    obtain ⟨p, ps, hp⟩ := List.exists_cons_of_ne_nil (pieces_ne_nil separator cs)
    have hrest := intercalate_pieces separator cs
    rw [pieces]
    split
    next hc =>
      rw [List.intercalate_cons_of_ne_nil (pieces_ne_nil separator cs), hrest, eq_of_beq hc]
      rfl
    next =>
      rw [hp] at hrest ⊢
      show [separator].intercalate ((c :: p) :: ps) = c :: cs
      rw [List.intercalate_cons_cons_left, hrest]

/-- A character that does not separate is in one of the pieces. -/
theorem exists_mem_pieces {separator c : Char} (hc : c ≠ separator) : ∀ {cs : List Char}, c ∈ cs →
    ∃ p ∈ pieces separator cs, c ∈ p
  | [], h => nomatch h
  | d :: cs, h => by
    obtain ⟨p, ps, hp⟩ := List.exists_cons_of_ne_nil (pieces_ne_nil separator cs)
    have hrest : c ∈ cs → ∃ q ∈ p :: ps, c ∈ q := hp ▸ exists_mem_pieces hc
    rw [pieces, hp]
    split
    next hd =>
      have hcs := (List.mem_cons.mp h).resolve_left fun heq => hc (heq.trans (eq_of_beq hd))
      obtain ⟨q, hq, hmem⟩ := hrest hcs
      exact ⟨q, List.mem_cons_of_mem _ hq, hmem⟩
    next =>
      rcases List.mem_cons.mp h with rfl | hcs
      · exact ⟨c :: p, List.mem_cons_self, List.mem_cons_self⟩
      · obtain ⟨q, hq, hmem⟩ := hrest hcs
        rcases List.mem_cons.mp hq with rfl | hq
        · exact ⟨d :: q, List.mem_cons_self, List.mem_cons_of_mem _ hmem⟩
        · exact ⟨q, List.mem_cons_of_mem _ hq, hmem⟩

/-- No piece has a separator in it. -/
theorem notMem_of_mem_pieces {separator : Char} : ∀ {cs p : List Char}, p ∈ pieces separator cs →
    separator ∉ p
  | [], p, hp => by
    rw [pieces, List.mem_singleton] at hp
    rw [hp]
    exact List.not_mem_nil
  | c :: cs, p, hp => by
    obtain ⟨q, qs, hq⟩ := List.exists_cons_of_ne_nil (pieces_ne_nil separator cs)
    have hrest : ∀ r ∈ q :: qs, separator ∉ r := fun r hr => notMem_of_mem_pieces (hq ▸ hr)
    rw [pieces, hq] at hp
    split at hp
    next =>
      rcases List.mem_cons.mp hp with rfl | hp
      · exact List.not_mem_nil
      · exact hrest p hp
    next hc =>
      rcases List.mem_cons.mp hp with rfl | hp
      · exact List.not_mem_cons_of_ne_of_not_mem (Ne.symm (mt beq_iff_eq.mpr hc))
          (hrest q List.mem_cons_self)
      · exact hrest p (List.mem_cons_of_mem q hp)

/-- A piece of a path is a relative path. -/
theorem isAbsolute_of_mem_segments {name s : String} (hs : s ∈ segments name) :
    isAbsolute s = false := by
  obtain ⟨p, hp, rfl⟩ := List.mem_map.mp hs
  have hslash := notMem_of_mem_pieces hp
  unfold isAbsolute
  rw [String.toList_ofList]
  split
  · exact absurd List.mem_cons_self hslash
  · rfl

/-- A character other than the slash is in a name only if it is in one of its segments. -/
theorem notMem_of_segments {c : Char} (hc : c ≠ '/') {name : String}
    (h : ∀ s ∈ segments name, c ∉ s.toList) : c ∉ name.toList := by
  intro hmem
  obtain ⟨p, hp, hcp⟩ := exists_mem_pieces hc hmem
  refine h (String.ofList p) (List.mem_map_of_mem hp) ?_
  rwa [String.toList_ofList]

/-- A name is its segments with slashes in between. -/
theorem intercalate_segments (name : String) : "/".intercalate (segments name) = name := by
  rw [← String.toList_inj, String.toList_intercalate, segments, List.map_map]
  have hsame : (String.toList ∘ String.ofList) = id := funext fun cs => String.toList_ofList
  rw [hsame, List.map_id]
  exact intercalate_pieces '/' name.toList

end Stencil.Path
