import Stencil.Proofs.FileTree.Holding

/-!
# Longer spellings of a path

A dot in front of a path changes neither where the path leads nor whether it stays below a
directory, but it makes the path longer (`utf8ByteSize_dotted`), and a path can be too long to lead
anywhere (`isPath_append_dotted`).
-/

namespace Stencil

namespace Path

/-- A path with a dot so many times in front of it. -/
def dotted : Nat → String → String
  | 0, path => path
  | n + 1, path => "./" ++ dotted n path

/-- Every dot makes the path two bytes longer. -/
theorem utf8ByteSize_dotted (path : String) : ∀ n,
    (dotted n path).utf8ByteSize = 2 * n + path.utf8ByteSize
  | 0 => by simp [dotted]
  | n + 1 => by
    have hdot : ("./" : String).utf8ByteSize = 2 := rfl
    rw [dotted, String.utf8ByteSize_append, utf8ByteSize_dotted path n, hdot]
    omega

private theorem toList_dotted_succ (n : Nat) (path : String) :
    (dotted (n + 1) path).toList = '.' :: '/' :: (dotted n path).toList := by
  simp [dotted]

private theorem nul_notMem_dotted {path : String} (h : '\x00' ∉ path.toList) : ∀ n,
    '\x00' ∉ (dotted n path).toList
  | 0 => h
  | n + 1 => by
    rw [toList_dotted_succ]
    simp [nul_notMem_dotted h n]

private theorem dotted_succ_ne_empty (n : Nat) (path : String) : dotted (n + 1) path ≠ "" := by
  intro hempty
  rw [← String.toList_inj, toList_dotted_succ] at hempty
  cases hempty

/-- Every dot is a segment of its own. -/
theorem segments_dotted_succ (n : Nat) (path : String) :
    segments (dotted (n + 1) path) = "." :: segments (dotted n path) :=
  segments_append_slash "." (dotted n path)

/-- Dots do not count. -/
private theorem filterMap_segments_dotted (path : String) : ∀ n,
    (segments (dotted n path)).filterMap Component.ofSegment? =
      (segments path).filterMap Component.ofSegment?
  | 0 => rfl
  | n + 1 => by
    rw [segments_dotted_succ, List.filterMap_cons, filterMap_segments_dotted path n]
    rfl

/-- Dots in front of a path do not lead out of the directory. -/
theorem isContained_dotted_succ {path : String} (h : isContained path = true) (n : Nat) :
    isContained (dotted (n + 1) path) = true := by
  have habsolute : isAbsolute (dotted (n + 1) path) = false := by
    simp only [isAbsolute, toList_dotted_succ]
    rfl
  rw [isContained, components, List.all_append, Bool.and_eq_true_iff, Bool.and_eq_true_iff] at h
  rw [isContained, components, habsolute, filterMap_segments_dotted, segments_dotted_succ]
  exact Bool.and_eq_true_iff.mpr ⟨by simp [dotted_succ_ne_empty], h.2.2⟩

/-- A directory with a slash at its end is followed by the name. -/
theorem join_of_slash {left right : String} (hslash : left.toList.getLast? = some '/')
    (hright : isAbsolute right = false) : join left right = left ++ right := by
  simp [join, hright, hslash]

/-- A directory without a slash at its end is given one. -/
theorem join_of_no_slash {left right : String} (hleft : left ≠ "")
    (hslash : left.toList.getLast? ≠ some '/') (hright : isAbsolute right = false) :
    join left right = left ++ "/" ++ right := by
  simp [join, hleft, hright, hslash]

/-- What stands in front of a directory stands in front of what is joined to it. -/
theorem join_append (stem : String) {left right : String} (hleft : left ≠ "")
    (hright : isAbsolute right = false) : join (stem ++ left) right = stem ++ join left right := by
  have hlist : left.toList ≠ [] := by simpa using hleft
  have hlast : (stem ++ left).toList.getLast? = left.toList.getLast? := by
    rw [String.toList_append, List.getLast?_append, List.getLast?_eq_some_getLast hlist]
    rfl
  have hempty : (stem ++ left).isEmpty = left.isEmpty := Bool.eq_iff_iff.mpr (by simp [hleft])
  simp only [join, hright, hlast, hempty, Bool.false_eq_true, if_false]
  split <;> simp only [String.append_assoc]

/-- Dots in front of a directory stay in front. -/
theorem join_dotted {left right : String} (hleft : left ≠ "") (hright : isAbsolute right = false) :
    ∀ n, join (dotted n left) right = dotted n (join left right)
  | 0 => rfl
  | n + 1 => by
    have hne : dotted n left ≠ "" := by
      cases n with
      | zero => exact hleft
      | succ n => exact dotted_succ_ne_empty n left
    rw [dotted, dotted, join_append "./" hne hright, join_dotted hleft hright n]

end Path

namespace FileTree

/-- Below a directory, dots in front of a path count as nothing but bytes. -/
theorem isPath_append_dotted {stem path : String} (hstem : '\x00' ∉ stem.toList)
    (hpath : '\x00' ∉ path.toList) (n : Nat) :
    isPath (stem ++ Path.dotted (n + 1) path) =
      decide (stem.utf8ByteSize + (2 * (n + 1) + path.utf8ByteSize) < pathLimit) := by
  have hempty : (stem ++ Path.dotted (n + 1) path).isEmpty = false := by
    simp [Path.dotted_succ_ne_empty]
  have hnul : (stem ++ Path.dotted (n + 1) path).toList.contains '\x00' = false := by
    simp [hstem, Path.nul_notMem_dotted hpath]
  rw [isPath, String.utf8ByteSize_append, Path.utf8ByteSize_dotted, hempty, hnul, Bool.false_or,
    Bool.false_or, ← decide_not]
  exact decide_eq_decide.mpr Nat.not_le

/-- Dots in front of a path do not change the file that it leads to. -/
theorem fileAlong_dotted (get : List String → Option Node) (path : String) : ∀ n,
    fileAlong get [] (Path.segments (Path.dotted n path)) = fileAlong get [] (Path.segments path)
  | 0 => rfl
  | n + 1 => by
    rw [Path.segments_dotted_succ, fileAlong_cons_of_skip rfl, fileAlong_dotted get path n]

/-- Dots in front of a path do not change the directory that it leads to. -/
theorem directory?_dotted {t : FileTree} (path : String) : ∀ n,
    t.directory? (Path.dotted n path) = t.directory? path
  | 0 => rfl
  | n + 1 => by
    rw [← directory?_dotted path n, directory?, directory?, Path.segments_dotted_succ]
    rfl

end FileTree

end Stencil
