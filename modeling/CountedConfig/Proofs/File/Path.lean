/-
Absolute paths.

What is seen from an absolute path is absolute (`Path.isAbsolute_join`), and so is the directory of
an absolute path (`Path.isAbsolute_parent`).  Only the root has no directory, and no file can be
read there (`FileTree.rootIsDirectory_read`).
-/
import CountedConfig.File.Path
import CountedConfig.File.Tree
import CountedConfig.Proofs.Text.Split
import Mathlib.Data.List.TakeWhile

namespace CountedConfig
namespace Path

variable {base path p : Path}

theorem isAbsolute_iff : isAbsolute path = true ↔ ∃ rest, path = slash :: rest := by
  rw [isAbsolute, beq_iff_eq, List.head?_eq_some_iff]

theorem isAbsolute_append (h : isAbsolute base = true) (more : Bytes) :
    isAbsolute (base ++ more) = true := by
  obtain ⟨rest, rfl⟩ := isAbsolute_iff.1 h
  exact isAbsolute_iff.2 ⟨rest ++ more, rfl⟩

theorem isAbsolute_join (h : isAbsolute base = true) (p : Path) :
    isAbsolute (join base p) = true := by
  have hne : base.isEmpty = false := by
    obtain ⟨rest, rfl⟩ := isAbsolute_iff.1 h
    rfl
  cases hp : isAbsolute p with
  | true => rw [join, hp, Bool.true_or, if_pos rfl, hp]
  | false =>
    rw [join, hp, hne, if_neg (by decide)]
    split
    · exact isAbsolute_append h p
    · exact isAbsolute_append h _

/-- A path that leads nowhere from the root. -/
def IsRoot (path : Path) : Prop :=
  isAbsolute path = true ∧ ∀ piece ∈ path.splitOn slash, isVoid piece = true

theorem isRoot_cons {rest : Bytes} :
    IsRoot (slash :: rest) ↔ ∀ piece ∈ rest.splitOn slash, isVoid piece = true := by
  have hsplit : (slash :: rest).splitOn slash = [] :: rest.splitOn slash :=
    List.splitOn_append_cons_self_of_not_mem List.not_mem_nil rest
  rw [IsRoot, hsplit]
  simp [isAbsolute, isVoid]

theorem isAbsolute_parent (h : isAbsolute path = true) (hroot : ¬ IsRoot path) :
    isAbsolute (parent path) = true := by
  obtain ⟨rest, rfl⟩ := isAbsolute_iff.1 h
  rw [parent, splitLead, if_pos h]
  dsimp only
  split
  · rename_i hnone
    rw [List.dropWhile_eq_nil_iff] at hnone
    exact absurd (isRoot_cons.2 fun piece hm => hnone piece (List.mem_reverse.2 hm)) hroot
  · exact isAbsolute_append rfl _

theorem mem_of_isRoot {b : UInt8} (h : IsRoot path) (hb : b ∈ path) : b = slash ∨ b = dot := by
  by_cases hslash : b = slash
  · exact .inl hslash
  · obtain ⟨piece, hpiece, hm⟩ := exists_mem_splitOn hb hslash
    have hvoid := h.2 piece hpiece
    rw [isVoid, Bool.or_eq_true, List.isEmpty_iff, beq_iff_eq] at hvoid
    rcases hvoid with rfl | rfl
    · exact absurd hm List.not_mem_nil
    · exact .inr (List.mem_singleton.1 hm)

end Path

/-- At the root there is a directory. -/
def Disk.RootIsDirectory (disk : Disk) : Prop :=
  ∀ path, Path.IsRoot path → disk path = .error .isDirectory

namespace FileTree

theorem foldlM_follow_outside (tree : FileTree) {pieces : List Bytes}
    (h : ∀ piece ∈ pieces, piece = here) : pieces.foldlM tree.follow .outside = .ok .outside := by
  induction pieces with
  | nil => rfl
  | cons piece more ih =>
    obtain ⟨hpiece, hmore⟩ := List.forall_mem_cons.1 h
    have hfollow : tree.follow .outside piece = .ok .outside := by
      rw [hpiece]
      rfl
    rw [List.foldlM_cons, hfollow]
    exact ih hmore

theorem resolve_of_isRoot (tree : FileTree) {path : Path} (h : path.IsRoot) :
    tree.resolve path = .ok .outside := by
  have hpieces : ∀ piece ∈ pieces path, piece = here := fun piece hm => by
    obtain ⟨hm, hne⟩ := List.mem_filter.1 hm
    have hvoid := h.2 piece hm
    simpa [Path.isVoid, here, of_decide_eq_true hne] using hvoid
  rw [resolve, if_pos h.1]
  refine foldlM_follow_outside tree fun piece hm => ?_
  rcases List.mem_append.1 hm with hm | hm
  · exact hpieces piece hm
  · split at hm
    · exact List.mem_singleton.1 hm
    · exact absurd hm List.not_mem_nil

/-- No file of a tree is at the root. -/
theorem rootIsDirectory_read (tree : FileTree) : tree.read.RootIsDirectory := by
  intro path h
  have hnul : path.contains 0 = false := by
    rw [List.contains_eq_mem, decide_eq_false_iff_not]
    intro hm
    rcases Path.mem_of_isRoot h hm with hb | hb
    · exact absurd hb (by decide)
    · exact absurd hb (by decide)
  have hne : path ≠ [] := by
    rintro rfl
    exact absurd h.1 (by decide)
  rw [read, hnul, if_neg Bool.false_ne_true, if_neg hne, resolve_of_isRoot tree h]
  rfl

end FileTree
end CountedConfig
