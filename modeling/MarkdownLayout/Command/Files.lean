import MarkdownLayout.Command.Path

set_option autoImplicit false

namespace MarkdownLayout

class FileAccess (m : Type → Type) where
  present : String → m Bool
  read : String → m (Option ByteArray)
  write : String → ByteArray → m Bool

instance {ε : Type} {m : Type → Type} [Monad m] [FileAccess m] : FileAccess (ExceptT ε m) where
  present path := ExceptT.lift (FileAccess.present path)
  read path := ExceptT.lift (FileAccess.read path)
  write path bytes := ExceptT.lift (FileAccess.write path bytes)

inductive FileTree.Entry where
  | directory
  | file (bytes : ByteArray)

-- Files and directories, each under the names that lead to it: from the working directory, or from
-- the top, whose name is a slash.
structure FileTree where
  entries : List (List String × FileTree.Entry)

namespace FileTree

def empty : FileTree := ⟨[]⟩

def top : List String := ["/"]

def isAbove (place : List String) : Bool := place.all fun name => name == ".."

-- What stands at a place. The working directory and all above it are directories.
def entry? (tree : FileTree) (place : List String) : Option Entry :=
  if isAbove place || place == top then some .directory else tree.entries.lookup place

def isDirectory (tree : FileTree) (place : List String) : Bool :=
  match tree.entry? place with
  | some .directory => true
  | _ => false

def outer (place : List String) : List String :=
  if isAbove place then place ++ [".."] else if place == top then top else place.dropLast

def step (place : List String) (name : String) : List String :=
  if Path.isIdle name then place else if name = ".." then outer place else place ++ [name]

def follow (tree : FileTree) (place : List String) : List String → Option (List String)
  | [] => some place
  | name :: rest =>
      if tree.isDirectory place ∧ name.utf8ByteSize ≤ Path.nameLimit then tree.follow (step place name) rest
      else none

def start (path : String) : List String := if path.startsWith "/" then top else []

def locate (tree : FileTree) (path : String) : Option (List String) :=
  if path.utf8ByteSize ≤ Path.lengthLimit then tree.follow (start path) (Path.names path) else none

def put (tree : FileTree) (place : List String) (entry : Entry) : FileTree := ⟨(place, entry) :: tree.entries⟩

def putOuter (tree : FileTree) (place : List String) : FileTree :=
  (List.range place.length).foldl (fun tree depth => tree.put (place.take depth) .directory) tree

def ofList (files : List (String × Option ByteArray)) : FileTree :=
  files.foldl
    (fun tree (path, bytes?) =>
      let place := (Path.names path).foldl step (start path)
      (tree.putOuter place).put place (match bytes? with
        | some bytes => .file bytes
        | none => .directory))
    empty

def present (tree : FileTree) (path : String) : Bool :=
  ((tree.locate path).bind tree.entry?).isSome

def read (tree : FileTree) (path : String) : Option ByteArray :=
  match (tree.locate path).bind tree.entry? with
  | some (.file bytes) => some bytes
  | _ => none

def write? (tree : FileTree) (path : String) (bytes : ByteArray) : Option FileTree := do
  let place ← tree.locate path
  if tree.isDirectory place then none else some (tree.put place (.file bytes))

instance : FileAccess (StateM FileTree) where
  present path := do return (← get).present path
  read path := do return (← get).read path
  write path bytes := do
    match (← get).write? path bytes with
    | some tree =>
        set tree
        return true
    | none => return false

end FileTree

end MarkdownLayout
