import MarkdownLayout.Command.Files
import MarkdownLayout.Proofs.Dictionary

set_option autoImplicit false

namespace MarkdownLayout.FileTree

theorem entry_put (tree : FileTree) (place other : List String) (entry : Entry)
    (free : (isAbove place || place == top) = false) :
    FileTree.entry? (tree.put place entry) other = if other = place then some entry else tree.entry? other := by
  rw [ entry?, entry?, put, List.lookup_cons]
  by_cases same : other = place
  · subst same
    simp [free]
  · simp [same, beq_eq_false_iff_ne.mpr same]

theorem free_of_not_directory (tree : FileTree) (place : List String) (noDirectory : tree.isDirectory place = false) :
    (isAbove place || place == top) = false := by
  refine Bool.eq_false_iff.mpr fun outside => ?_
  rw [isDirectory, entry?, if_pos outside] at noDirectory
  cases noDirectory

section

variable (tree : FileTree) (place : List String) (bytes : ByteArray) (noDirectory : tree.isDirectory place = false)
include noDirectory

theorem directories_kept (other : List String) :
    (tree.put place (.file bytes)).isDirectory other = tree.isDirectory other := by
  rw [isDirectory, entry_put tree place other _ (free_of_not_directory tree place noDirectory)]
  by_cases same : other = place
  · rw [if_pos same, same, noDirectory]
  · rw [if_neg same, isDirectory]

theorem follow_kept (start names : List String) :
    (tree.put place (.file bytes)).follow start names = tree.follow start names := by
  induction names generalizing start with
  | nil => rfl
  | cons name rest ih => rw [follow, follow, directories_kept tree place bytes noDirectory, ih]

theorem locate_kept (path : String) : (tree.put place (.file bytes)).locate path = tree.locate path := by
  rw [locate, locate, follow_kept tree place bytes noDirectory]

end

theorem locate_name (tree : FileTree) (name : String) (single : Path.names name = [name]) (relative : start name = [])
    (short : name.utf8ByteSize ≤ Path.nameLimit) (proper : step [] name = [name]) :
    tree.locate name = some [name] := by
  have here : tree.isDirectory [] = true := rfl
  have shortPath : name.utf8ByteSize ≤ Path.lengthLimit := Nat.le_trans short (by decide)
  rw [locate, if_pos shortPath, single, relative, follow, if_pos ⟨here, short⟩, proper, follow]

def accepts (tree : FileTree) (path : String) : Bool := (tree.locate path).any fun place => !tree.isDirectory place

structure Rewritten (before after : FileTree) (path : String) (bytes : ByteArray) : Prop where
  entries : ∀ place, after.entry? place =
    if before.locate path = some place then some (.file bytes) else before.entry? place
  located : ∀ other, after.locate other = before.locate other
  contents : ∀ other, after.read other =
    if before.locate other = before.locate path then some bytes else before.read other

namespace Rewritten

variable {before after : FileTree} {path : String} {bytes : ByteArray} (rewritten : Rewritten before after path bytes)
include rewritten

theorem entry_kept (other : String) (apart : before.locate other ≠ before.locate path) (place : List String)
    (found : before.locate other = some place) : after.entry? place = before.entry? place := by
  rw [rewritten.entries, if_neg fun hit => apart (found.trans hit.symm)]

theorem present_kept (other : String) (apart : before.locate other ≠ before.locate path) :
    after.present other = before.present other := by
  rw [present, present, rewritten.located]
  cases found : before.locate other with
  | none => rfl
  | some place => rw [Option.bind_some, Option.bind_some, rewritten.entry_kept other apart place found]

theorem read_kept (other : String) (apart : before.locate other ≠ before.locate path) :
    after.read other = before.read other := by
  rw [rewritten.contents, if_neg apart]

theorem accepts_kept (other : String) (apart : before.locate other ≠ before.locate path) :
    after.accepts other = before.accepts other := by
  rw [accepts, accepts, rewritten.located]
  cases found : before.locate other with
  | none => rfl
  | some place =>
      rw [Option.any_some, Option.any_some, isDirectory, isDirectory, rewritten.entry_kept other apart place found]

theorem read_back : after.read path = some bytes := by
  rw [rewritten.contents, if_pos rfl]

theorem swapped (other : String) (apart : before.locate other ≠ before.locate path) (written : ByteArray)
    (early late : FileTree) (atOnce : Rewritten before early other written)
    (afterwards : Rewritten after late other written) : Rewritten early late path bytes where
  entries place := by
    rw [afterwards.entries, rewritten.located, rewritten.entries, atOnce.located, atOnce.entries]
    by_cases first : before.locate path = some place
    · have notSecond : before.locate other ≠ some place := fun second => apart (second.trans first.symm)
      rw [if_neg notSecond, if_pos first, if_pos first]
    · rw [if_neg first, if_neg first]
  located third := by rw [afterwards.located, rewritten.located, atOnce.located]
  contents third := by
    rw [afterwards.contents, rewritten.located, rewritten.located, rewritten.contents, atOnce.located,
      atOnce.located, atOnce.contents]
    by_cases first : before.locate third = before.locate path
    · have notSecond : before.locate third ≠ before.locate other := fun second => apart (second.symm.trans first)
      rw [if_neg notSecond, if_pos first, if_pos first]
    · rw [if_neg first, if_neg first]

end Rewritten

theorem write_refused (tree : FileTree) (path : String) (bytes : ByteArray) (refused : tree.accepts path = false) :
    tree.write? path bytes = none := by
  cases found : tree.locate path with
  | none => simp [write?, found]
  | some place => simpa [write?, found, accepts] using refused

theorem write_accepted (tree : FileTree) (path : String) (bytes : ByteArray) (accepted : tree.accepts path = true) :
    ∃ after, tree.write? path bytes = some after ∧ Rewritten tree after path bytes := by
  cases found : tree.locate path with
  | none => simp [accepts, found] at accepted
  | some place =>
      have noDirectory : tree.isDirectory place = false := by simpa [accepts, found] using accepted
      have free := free_of_not_directory tree place noDirectory
      have located := locate_kept tree place bytes noDirectory
      refine ⟨tree.put place (.file bytes), by simp [write?, found, noDirectory], ?_, located, ?_⟩
      · intro other
        rw [entry_put tree place other _ free, found]
        by_cases same : other = place
        · rw [if_pos same, if_pos (congrArg some same.symm)]
        · rw [if_neg same, if_neg fun hit => same (Option.some.inj hit).symm]
      · intro other
        rw [read, located, read]
        cases reached : tree.locate other with
        | none => simp [found]
        | some there =>
            rw [Option.bind_some, Option.bind_some, entry_put tree place there _ free, found]
            by_cases same : there = place
            · simp [same]
            · simp [same]

end MarkdownLayout.FileTree
