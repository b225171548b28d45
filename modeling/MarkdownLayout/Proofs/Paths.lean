import MarkdownLayout.Command.Files

set_option autoImplicit false

namespace MarkdownLayout

namespace Path

theorem names_nonempty (path : String) : names path ≠ [] := by
  simp [names, List.splitOn_ne_nil]

theorem split_apart (chars : List Char) : ∀ part ∈ chars.splitOn '/', '/' ∉ part := by
  induction chars with
  | nil => simp
  | cons c rest ih =>
      rw [List.splitOn_cons_eq_if_modifyHead]
      by_cases slash : c = '/'
      · simpa [slash] using ih
      · obtain ⟨first, others, parts⟩ := List.exists_cons_of_ne_nil (List.splitOn_ne_nil '/' rest)
        rw [parts] at ih ⊢
        simpa [slash, Ne.symm slash] using ih

theorem names_apart (path : String) : ∀ name ∈ names path, '/' ∉ name.toList := by
  simpa [names] using split_apart path.toList

theorem names_of_names (parts : List String) (nonempty : parts ≠ []) (apart : ∀ name ∈ parts, '/' ∉ name.toList) :
    names (ofNames parts) = parts := by
  have split : (['/'].intercalate (parts.map String.toList)).splitOn '/' = parts.map String.toList :=
    List.splitOn_intercalate '/' (by simpa using apart) (by simpa using nonempty)
  rw [names, ofNames, String.toList_intercalate]
  show List.map String.ofList (List.splitOn '/' (['/'].intercalate _)) = parts
  rw [split]
  simp

theorem trim_end_split (outer : List String) :
    ∃ idle, outer = trimEnd outer ++ idle ∧ ∀ name ∈ idle, isIdle name = true := by
  cases outer with
  | nil => exact ⟨[], rfl, by simp⟩
  | cons first rest =>
      refine ⟨(rest.reverse.takeWhile isIdle).reverse, ?_, fun name member => ?_⟩
      · rw [trimEnd, List.cons_append, ← List.reverse_append, List.takeWhile_append_dropWhile, List.reverse_reverse]
      · exact List.all_eq_true.mp List.all_takeWhile name (List.mem_reverse.mp member)

theorem trim_end_proper (outer : List String) (last : String) (proper : isIdle last = false) :
    trimEnd (outer ++ [last]) = outer ++ [last] := by
  cases outer with
  | nil => rfl
  | cons first rest => simp [trimEnd, proper]

theorem sibling_names (path name last : String) (outer : List String) (parts : names path = outer ++ [last])
    (proper : isIdle last = false) (single : '/' ∉ name.toList) :
    names (sibling path name) = trimEnd outer ++ [name] := by
  have apart := names_apart path
  rw [sibling, parts, trim_end_proper outer last proper, List.dropLast_concat]
  refine names_of_names _ (List.concat_ne_nil name _) (List.forall_mem_append.mpr ⟨fun other held => ?_, by simpa⟩)
  obtain ⟨idle, split, -⟩ := trim_end_split outer
  refine apart other ?_
  rw [parts, split]
  exact List.mem_append_left _ (List.mem_append_left _ held)

end Path

namespace FileTree

theorem start_of_names (path first : String) (rest : List String) (parts : Path.names path = first :: rest) :
    start path = if first = "" ∧ rest ≠ [] then top else [] := by
  have slashed : path.startsWith "/" = true ↔ first = "" ∧ rest ≠ [] := by
    rw [String.startsWith_string_iff]
    rw [Path.names] at parts
    cases chars : path.toList with
    | nil =>
        rw [chars] at parts
        obtain ⟨rfl, rfl⟩ := List.cons.inj parts
        simp
    | cons c others =>
        rw [chars, List.splitOn_cons_eq_if_modifyHead] at parts
        by_cases slash : c = '/'
        · rw [if_pos (beq_iff_eq.mpr slash)] at parts
          obtain ⟨rfl, rfl⟩ := List.cons.inj parts
          simp [slash, List.splitOn_ne_nil]
        · obtain ⟨part, more, split⟩ := List.exists_cons_of_ne_nil (List.splitOn_ne_nil '/' others)
          rw [if_neg (by simpa using slash), split] at parts
          obtain ⟨rfl, rfl⟩ := List.cons.inj parts
          simp [Ne.symm slash]
  simp only [start, slashed]

theorem follow_append (tree : FileTree) (place : List String) (outer inner : List String) :
    tree.follow place (outer ++ inner) = (tree.follow place outer).bind fun reached => tree.follow reached inner := by
  induction outer generalizing place with
  | nil => rfl
  | cons name rest ih =>
      rw [List.cons_append, follow, follow]
      split
      · exact ih _
      · rfl

theorem follow_idle (tree : FileTree) (place reached : List String) (idle : List String)
    (all : ∀ name ∈ idle, Path.isIdle name = true) (followed : tree.follow place idle = some reached) :
    reached = place := by
  induction idle with
  | nil => exact (Option.some.inj followed).symm
  | cons name rest ih =>
      obtain ⟨isIdle, others⟩ := List.forall_mem_cons.mp all
      rw [follow, step, if_pos isIdle] at followed
      split at followed
      · exact ih others followed
      · cases followed

-- A place that a path leads to: all that is above it are directories.
def Grounded (tree : FileTree) (place : List String) : Prop :=
  ∀ above, above <+: place → above ≠ place → tree.isDirectory above = true

theorem outside_directory (tree : FileTree) (place : List String) (outside : (isAbove place || place == top) = true) :
    tree.isDirectory place = true := by
  rw [isDirectory, entry?, if_pos outside]

theorem above_directory (tree : FileTree) (place : List String) (above : isAbove place = true) :
    tree.isDirectory place = true :=
  outside_directory tree place (by rw [above, Bool.true_or])

theorem drop_last_shorter (place : List String) (inside : ¬ isAbove place = true) :
    place.dropLast.length < place.length := by
  have positive : 0 < place.length := by
    refine List.length_pos_iff.mpr ?_
    rintro rfl
    exact inside rfl
  rw [List.length_dropLast]
  omega

theorem outer_directory (tree : FileTree) (place : List String) (grounded : tree.Grounded place) :
    tree.isDirectory (outer place) = true := by
  rw [outer]
  split
  case isTrue above => exact above_directory tree _ (by simpa [isAbove] using above)
  case isFalse inside =>
      split
      case isTrue => exact outside_directory tree top (by decide)
      case isFalse =>
          have shorter := drop_last_shorter place inside
          refine grounded _ (List.dropLast_prefix place) fun same => ?_
          rw [same] at shorter
          omega

theorem above_grounded (tree : FileTree) (place : List String) (above : isAbove place = true) : tree.Grounded place :=
  fun outer below _ => above_directory tree outer
    (List.all_eq_true.mpr fun name member => List.all_eq_true.mp above name (below.subset member))

theorem top_grounded (tree : FileTree) : tree.Grounded top := by
  intro above below different
  rcases List.prefix_concat_iff.mp (show above <+: [] ++ ["/"] from below) with same | inner
  · exact absurd same different
  · exact above_directory tree above (by rw [List.prefix_nil.mp inner]; rfl)

theorem start_grounded (tree : FileTree) (path : String) : tree.Grounded (start path) := by
  rw [start]
  split
  · exact top_grounded tree
  · exact above_grounded tree [] rfl

theorem outer_grounded (tree : FileTree) (place : List String) (grounded : tree.Grounded place) :
    tree.Grounded (outer place) := by
  rw [outer]
  split
  case isTrue above => exact above_grounded tree _ (by simpa [isAbove] using above)
  case isFalse inside =>
      split
      case isTrue => exact top_grounded tree
      case isFalse =>
          have shorter := drop_last_shorter place inside
          intro above below _
          refine grounded above (below.trans (List.dropLast_prefix place)) fun same => ?_
          have short := below.length_le
          rw [same] at short
          omega

theorem step_grounded (tree : FileTree) (place : List String) (name : String) (grounded : tree.Grounded place)
    (isDirectory : tree.isDirectory place = true) : tree.Grounded (step place name) := by
  rw [step]
  split
  · exact grounded
  · split
    · exact outer_grounded tree place grounded
    · intro above below different
      rcases List.prefix_concat_iff.mp below with whole | inner
      · exact absurd whole different
      · by_cases same : above = place
        · rw [same]
          exact isDirectory
        · exact grounded above inner same

theorem follow_grounded (tree : FileTree) (place reached : List String) (names : List String)
    (grounded : tree.Grounded place) (followed : tree.follow place names = some reached) : tree.Grounded reached := by
  induction names generalizing place with
  | nil =>
      obtain rfl := Option.some.inj followed
      exact grounded
  | cons name rest ih =>
      rw [follow] at followed
      split at followed
      case isTrue enters => exact ih _ (step_grounded tree place name grounded enters.1) followed
      case isFalse => cases followed

structure StandsIn (tree : FileTree) (path : String) (place outer : List String) (last : String) : Prop where
  names : Path.names path = outer ++ [last]
  proper : Path.isIdle last = false
  reached : tree.follow (start path) outer = some place.dropLast
  directory : tree.isDirectory place.dropLast = true

theorem step_to_file (tree : FileTree) (place : List String) (name : String) (grounded : tree.Grounded place)
    (isDirectory : tree.isDirectory place = true) (isFile : tree.isDirectory (step place name) = false) :
    Path.isIdle name = false ∧ step place name = place ++ [name] := by
  rw [step] at isFile ⊢
  split at isFile
  case isTrue =>
      rw [isDirectory] at isFile
      cases isFile
  case isFalse proper =>
      rw [if_neg proper]
      split at isFile
      case isTrue =>
          rw [outer_directory tree place grounded] at isFile
          cases isFile
      case isFalse ordinary =>
          rw [if_neg ordinary]
          exact ⟨by simpa using proper, rfl⟩

theorem stands_in_directory (tree : FileTree) (path : String) (place : List String)
    (located : tree.locate path = some place) (noDirectory : tree.isDirectory place = false) :
    ∃ outer last, tree.StandsIn path place outer last := by
  obtain ⟨outer, last, parts⟩ := (List.eq_nil_or_concat (Path.names path)).resolve_left (Path.names_nonempty path)
  rw [List.concat_eq_append] at parts
  rw [locate, parts] at located
  split at located
  case isFalse => cases located
  case isTrue =>
      rw [follow_append] at located
      obtain ⟨above, reached, entered⟩ := Option.bind_eq_some_iff.mp located
      have grounded := follow_grounded tree _ above outer (start_grounded tree path) reached
      rw [follow] at entered
      split at entered
      case isFalse => cases entered
      case isTrue enters =>
          obtain rfl := Option.some.inj entered
          obtain ⟨proper, isStep⟩ := step_to_file tree above last grounded enters.1 noDirectory
          have dropped : (step above last).dropLast = above := by rw [isStep, List.dropLast_concat]
          exact ⟨outer, last, parts, proper, by rw [dropped]; exact reached, by rw [dropped]; exact enters.1⟩

theorem locate_sibling (tree : FileTree) (path name : String) (place : List String)
    (located : tree.locate path = some place) (noDirectory : tree.isDirectory place = false)
    (single : '/' ∉ name.toList) (short : name.utf8ByteSize ≤ Path.nameLimit)
    (proper : ∀ place, step place name = place ++ [name]) :
    tree.locate (Path.sibling path name) =
      if (Path.sibling path name).utf8ByteSize ≤ Path.lengthLimit then some (place.dropLast ++ [name]) else none := by
  obtain ⟨outer, last, stands⟩ := stands_in_directory tree path place located noDirectory
  have names := Path.sibling_names path name last outer stands.names stands.proper single
  obtain ⟨idle, split, allIdle⟩ := Path.trim_end_split outer
  have sameStart : start (Path.sibling path name) = start path := by
    have given := stands.names
    cases outer with
    | nil => rw [start_of_names _ name [] names, start_of_names _ last [] given]; simp
    | cons first rest => rw [start_of_names _ first _ names, start_of_names _ first _ given]; simp
  have reached : tree.follow (start path) (Path.trimEnd outer) = some place.dropLast := by
    have followed := stands.reached
    rw [split, follow_append] at followed
    obtain ⟨above, first, rest⟩ := Option.bind_eq_some_iff.mp followed
    rw [first, follow_idle tree above _ idle allIdle rest]
  have entered : tree.follow place.dropLast [name] = some (place.dropLast ++ [name]) := by
    rw [follow, if_pos ⟨stands.directory, short⟩, proper, follow]
  rw [locate, sameStart, names, follow_append, reached, Option.bind_some, entered]

end FileTree

end MarkdownLayout
