import Stencil.Proofs.FileTree.Holding
import Stencil.Proofs.FileTree.Listing

/-!
# One path, spelled in several ways

Two spellings of a path have the same components. What a walk goes by is a little less, the pieces of
the path that count (`Path.place`), and these follow from the components
(`Path.place_eq_of_same`). The other pieces may stand anywhere, with one exception: behind the last
piece that counts they ask for a directory. So they can be left out wherever the walk goes on
(`walk_congr`), and at the end wherever a directory is looked for (`directory?_eq_of_place`).

> `read?_join_eq_of_place`: a name leads to the same file below two spellings of a directory;
> `filesBelow_eq_of_place`: and the same files are listed there.

Links do no harm: behind a link a walk goes on with the same pieces that were left. Spellings differ in
one thing, how long they are, and a path that is too long leads nowhere. Hence both statements ask that
either spelling is short enough or neither is.
-/

namespace Stencil

namespace Path

/-- The piece that is walked for a component, if one is. -/
def Component.piece? : Component → Option String
  | .root => none
  | .here => none
  | .up => some ".."
  | .name s => some s

/-- Components keep the pieces that count. -/
theorem filterMap_piece? (pieces : List String) :
    (pieces.filterMap Component.ofSegment?).filterMap Component.piece? =
      pieces.filter fun s => !(s == "" || s == ".") := by
  induction pieces with
  | nil => rfl
  | cons s pieces ih =>
    rw [List.filterMap_cons, List.filter_cons, Component.ofSegment?]
    by_cases hskip : (s == "" || s == ".") = true
    · simp only [hskip, if_true, Bool.not_true, Bool.false_eq_true, if_false]
      exact ih
    · simp only [hskip, Bool.false_eq_true, if_false, Bool.not_false, if_true]
      by_cases hup : (s == "..") = true
      · rw [if_pos hup]
        show ".." :: _ = _
        rw [ih, eq_of_beq hup]
      · rw [if_neg hup]
        show s :: _ = _
        rw [ih]

private theorem place_eq_filterMap (path : String) :
    place path = (components path).filterMap Component.piece? := by
  have hstart : ∀ start : List Component, (start = [.root] ∨ start = [.here] ∨ start = []) →
      start.filterMap Component.piece? = [] := by
    intro start hstart
    rcases hstart with rfl | rfl | rfl <;> rfl
  unfold components place
  rw [List.filterMap_append, filterMap_piece?, hstart, List.nil_append]
  split
  · exact Or.inl rfl
  · split
    · exact Or.inr (Or.inl rfl)
    · exact Or.inr (Or.inr rfl)

/-- Spellings of the same components have the same pieces that count. -/
theorem place_eq_of_same {p q : String} (h : same p q = true) : place p = place q := by
  rw [place_eq_filterMap, place_eq_filterMap, eq_of_beq h]

/-- The pieces of a joined path that count, with the ones before those of the right side. -/
theorem exists_segments_join_place {right : String} (h : isAbsolute right = false)
    (left : String) :
    ∃ stem, segments (join left right) = stem ++ segments right ∧
      (stem.filter fun s => !(s == "" || s == ".")) = place left := by
  obtain ⟨stem, hjoin, hstem⟩ := exists_segments_join h left
  refine ⟨stem, hjoin, ?_⟩
  unfold place
  rcases hstem with hstem | hstem
  · rw [hstem]
  · rw [hstem, List.filter_append]
    exact (List.append_nil _).symm

/-- What is joined leads on from where the directory leads. -/
theorem place_join {right : String} (h : isAbsolute right = false) (left : String) :
    place (join left right) = place left ++ place right := by
  obtain ⟨stem, hjoin, hstem⟩ := exists_segments_join_place h left
  rw [← hstem]
  unfold place
  rw [hjoin, List.filter_append]

/-- What is in a piece is in the text. -/
theorem mem_of_mem_pieces {separator c : Char} {p : List Char} (hc : c ∈ p) :
    ∀ {cs : List Char}, p ∈ pieces separator cs → c ∈ cs := by
  intro cs
  induction cs generalizing p with
  | nil =>
    intro hp
    rw [pieces, List.mem_singleton] at hp
    rwa [hp] at hc
  | cons d cs ih =>
    intro hp
    obtain ⟨q, qs, hq⟩ := List.exists_cons_of_ne_nil (pieces_ne_nil separator cs)
    rw [pieces, hq] at hp
    rw [hq] at ih
    split at hp
    · rcases List.mem_cons.mp hp with rfl | hp
      · cases hc
      · exact List.mem_cons_of_mem d (ih hc hp)
    · rcases List.mem_cons.mp hp with rfl | hp
      · rcases List.mem_cons.mp hc with rfl | hc
        · exact List.mem_cons_self
        · exact List.mem_cons_of_mem d (ih hc List.mem_cons_self)
      · exact List.mem_cons_of_mem d (ih hc (List.mem_cons_of_mem q hp))

/-- A character that is neither a slash nor a dot is in one of the pieces that count. -/
theorem mem_toList_iff_of_place {c : Char} (hslash : c ≠ '/') (hdot : c ≠ '.') (path : String) :
    c ∈ path.toList ↔ ∃ s ∈ place path, c ∈ s.toList := by
  constructor
  · intro hmem
    obtain ⟨p, hp, hcp⟩ := exists_mem_pieces hslash hmem
    have hs : c ∈ (String.ofList p).toList := by rwa [String.toList_ofList]
    refine ⟨String.ofList p, List.mem_filter.mpr ⟨List.mem_map_of_mem hp, ?_⟩, hs⟩
    have hne : ∀ skip : String, c ∉ skip.toList → String.ofList p ≠ skip := by
      intro skip hskip heq
      exact hskip (heq ▸ hs)
    simp [hne "" (by simp), hne "." (by simpa using hdot)]
  · intro hpiece
    obtain ⟨s, hs, hcs⟩ := hpiece
    obtain ⟨p, hp, rfl⟩ := List.mem_map.mp (List.mem_filter.mp hs).1
    rw [String.toList_ofList] at hcs
    exact mem_of_mem_pieces hcs hp

end Path

namespace FileTree

/-- Of two spellings that count alike, both can lead somewhere or neither, if both are short enough or
neither is. -/
theorem isPath_eq_of_place {p q : String} (hp : p ≠ "") (hq : q ≠ "")
    (hplace : Path.place p = Path.place q)
    (hsize : p.utf8ByteSize < pathLimit ↔ q.utf8ByteSize < pathLimit) : isPath p = isPath q := by
  have hnul : '\x00' ∈ p.toList ↔ '\x00' ∈ q.toList := by
    rw [Path.mem_toList_iff_of_place (by decide) (by decide), hplace,
      ← Path.mem_toList_iff_of_place (by decide) (by decide)]
  rw [Bool.eq_iff_iff, isPath_iff, isPath_iff, hnul, hsize]
  simp only [hp, hq, ne_eq, not_false_eq_true, true_and]

variable {t : FileTree}

section Skipping

variable {s : String} {ys : List String}

/-- A piece that does not count can be left out where the walk goes on. -/
theorem walkPieces_skip (hskip : (s == "" || s == ".") = true) (hys : ys ≠ [])
    {follow : List String → List String → Option (List String)}
    (hfollow : ∀ place zs, follow place (zs ++ s :: ys) = follow place (zs ++ ys)) :
    ∀ (xs place : List String),
      t.walkPieces follow place (xs ++ s :: ys) = t.walkPieces follow place (xs ++ ys) := by
  intro xs
  induction xs with
  | nil =>
    intro place
    rw [List.nil_append, List.nil_append, walkPieces, if_pos hskip]
  | cons x xs ih =>
    intro place
    rw [List.cons_append, List.cons_append, walkPieces, walkPieces, ih, ih]
    -- The walk goes on from where it is, but for a file, which ends it, and for a link.
    by_cases hx : (x == "" || x == ".") = true
    · rw [if_pos hx, if_pos hx]
    · rw [if_neg hx, if_neg hx]
      by_cases hup : (x == "..") = true
      · rw [if_pos hup, if_pos hup]
      · rw [if_neg hup, if_neg hup]
        by_cases hlong : segmentLimit < x.utf8ByteSize
        · rw [if_pos hlong, if_pos hlong]
        · rw [if_neg hlong, if_neg hlong]
          cases t.node? (place ++ [x]) with
          | none => rfl
          | some node =>
            cases node with
            | directory => exact ih (place ++ [x])
            | file bytes => simp [hys]
            | link target =>
              show follow _ (_ ++ (xs ++ s :: ys)) = follow _ (_ ++ (xs ++ ys))
              rw [← List.append_assoc, ← List.append_assoc]
              exact hfollow _ _

/-- A piece that does not count may be left out anywhere on the way. -/
private theorem walk_skip (hskip : (s == "" || s == ".") = true) (hys : ys ≠ []) :
    ∀ (links : Nat) (place xs : List String),
      t.walk links place (xs ++ s :: ys) = t.walk links place (xs ++ ys) := by
  intro links
  induction links with
  | zero =>
    intro place xs
    exact walkPieces_skip hskip hys (fun _ _ => rfl) xs place
  | succ links ih =>
    intro place xs
    exact walkPieces_skip hskip hys ih xs place

/-- Where the walk goes on, only the pieces that count matter. -/
theorem walk_filter (hys : ys ≠ []) (links : Nat) (place : List String) :
    ∀ (xs stem : List String), t.walk links place (stem ++ xs ++ ys) =
      t.walk links place (stem ++ (xs.filter fun s => !(s == "" || s == ".")) ++ ys) := by
  intro xs
  induction xs with
  | nil =>
    intro stem
    rfl
  | cons x xs ih =>
    intro stem
    rw [List.filter_cons]
    by_cases hx : (x == "" || x == ".") = true
    · have hrest : xs ++ ys ≠ [] := List.append_ne_nil_of_right_ne_nil xs hys
      have hskip := walk_skip (t := t) hx hrest links place stem
      simp only [hx, Bool.not_true, Bool.false_eq_true, if_false]
      rw [List.append_assoc, List.cons_append, hskip, ← List.append_assoc]
      exact ih stem
    · have hx := eq_false_of_ne_true hx
      simp only [hx, Bool.not_false, if_true]
      rw [List.append_cons stem x xs, List.append_cons stem x (xs.filter _)]
      exact ih (stem ++ [x])

/-- Pieces that do not count make no difference to a walk that goes on. -/
theorem walk_congr (hys : ys ≠ []) {xs xs' : List String}
    (h : (xs.filter fun s => !(s == "" || s == ".")) = xs'.filter fun s => !(s == "" || s == "."))
    (links : Nat) (place : List String) :
    t.walk links place (xs ++ ys) = t.walk links place (xs' ++ ys) := by
  have hxs := walk_filter (t := t) hys links place xs []
  have hxs' := walk_filter (t := t) hys links place xs' []
  rw [List.nil_append, List.nil_append] at hxs hxs'
  rw [hxs, hxs', h]

end Skipping

section Directories

/-- An empty piece at the end makes no difference to a directory. -/
theorem filter_walkPieces_empty {follow : List String → List String → Option (List String)}
    (hfollow : ∀ place zs, (follow place (zs ++ [""])).filter t.isDirectoryAt =
      (follow place zs).filter t.isDirectoryAt) :
    ∀ (xs place : List String), (t.walkPieces follow place (xs ++ [""])).filter t.isDirectoryAt =
      (t.walkPieces follow place xs).filter t.isDirectoryAt := by
  intro xs
  induction xs with
  | nil =>
    intro place
    rfl
  | cons x xs ih =>
    intro place
    rw [List.cons_append, walkPieces, walkPieces]
    by_cases hx : (x == "" || x == ".") = true
    · rw [if_pos hx, if_pos hx]
      exact ih place
    · rw [if_neg hx, if_neg hx]
      by_cases hup : (x == "..") = true
      · rw [if_pos hup, if_pos hup]
        exact ih place.dropLast
      · rw [if_neg hup, if_neg hup]
        by_cases hlong : segmentLimit < x.utf8ByteSize
        · rw [if_pos hlong, if_pos hlong]
        · rw [if_neg hlong, if_neg hlong]
          cases hnode : t.node? (place ++ [x]) with
          | none => rfl
          | some node =>
            cases node with
            | directory => exact ih (place ++ [x])
            | file bytes =>
              -- A file is reached without the empty piece, and it is no directory.
              have hno : t.isDirectoryAt (place ++ [x]) = false := by
                unfold isDirectoryAt
                rw [hnode]
              cases xs with
              | nil => simp [Option.filter_some, hno]
              | cons y xs => simp
            | link target =>
              show (follow _ (_ ++ (xs ++ [""]))).filter _ = (follow _ (_ ++ xs)).filter _
              rw [← List.append_assoc]
              exact hfollow _ _

private theorem filter_walk_empty : ∀ (links : Nat) (place xs : List String),
    (t.walk links place (xs ++ [""])).filter t.isDirectoryAt =
      (t.walk links place xs).filter t.isDirectoryAt := by
  intro links
  induction links with
  | zero =>
    intro place xs
    exact filter_walkPieces_empty (fun _ _ => rfl) xs place
  | succ links ih =>
    intro place xs
    exact filter_walkPieces_empty ih xs place

/-- Spellings that count alike lead to the same directory. -/
theorem directory?_eq_of_place {p q : String} (h : Path.place p = Path.place q) :
    t.directory? p = t.directory? q := by
  unfold directory?
  rw [← filter_walk_empty, ← filter_walk_empty linkLimit [] (Path.segments q),
    walk_congr (List.cons_ne_nil "" []) h]

end Directories

/-- Below spellings of a directory that count alike a name leads to the same file, if it is short
enough to lead anywhere below both or below neither. -/
theorem read?_join_eq_of_place {p q name : String} (h : Path.place p = Path.place q)
    (hname : Path.isAbsolute name = false)
    (hpath : isPath (Path.join p name) = isPath (Path.join q name)) :
    t.read? (Path.join p name) = t.read? (Path.join q name) := by
  obtain ⟨stem, hp, hstem⟩ := Path.exists_segments_join_place hname p
  obtain ⟨stem', hq, hstem'⟩ := Path.exists_segments_join_place hname q
  have hwalk := walk_congr (t := t) (Path.segments_ne_nil name)
    (hstem.trans (h.trans hstem'.symm)) linkLimit []
  rw [read?_eq, read?_eq, find?_eq, find?_eq, hpath, hp, hq, hwalk]

/-- Below spellings of a directory that count alike the same files are listed, if the directories that
hold them can be opened in both spellings. -/
theorem filesBelow_eq_of_place {p q : String} (hp : p ≠ "") (hq : q ≠ "")
    (h : Path.place p = Path.place q)
    (hopens : ∀ name ∈ t.filesBelow p ++ t.filesBelow q, Opens p name ∧ Opens q name) :
    t.filesBelow p = t.filesBelow q := by
  cases hnames : t.filesBelow p ++ t.filesBelow q with
  | nil =>
    obtain ⟨hp, hq⟩ := List.append_eq_nil_iff.mp hnames
    rw [hp, hq]
  | cons name names =>
    -- Something is listed, so both spellings are short enough to lead to the directory.
    obtain ⟨hopens₁, hopens₂⟩ := hopens name (hnames ▸ List.mem_cons_self)
    have hpath := isPath_eq_of_place hp hq h
      (iff_of_true hopens₁.utf8ByteSize_lt hopens₂.utf8ByteSize_lt)
    rw [filesBelow_eq, filesBelow_eq, hpath, directory?_eq_of_place h] at hopens ⊢
    by_cases hq : isPath q = true
    · rw [if_pos hq, if_pos hq] at hopens ⊢
      refine List.filter_congr fun found hfound => decide_eq_decide.mpr ?_
      constructor
      · intro hfirst
        refine (hopens found (List.mem_append_left _ ?_)).2
        exact List.mem_filter.mpr ⟨hfound, decide_eq_true hfirst⟩
      · intro hsecond
        refine (hopens found (List.mem_append_right _ ?_)).1
        exact List.mem_filter.mpr ⟨hfound, decide_eq_true hsecond⟩
    · rw [if_neg hq, if_neg hq]

end FileTree

end Stencil
