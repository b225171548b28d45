set_option autoImplicit false

namespace MarkdownLayout.Path

def names (path : String) : List String := (path.toList.splitOn '/').map String.ofList

def ofNames (names : List String) : String := "/".intercalate names

def nameLimit : Nat := 255

def lengthLimit : Nat := 4095

def isIdle (name : String) : Bool := name = "" || name = "."

-- Drops the idle names at the end. The first name stays, since it tells where the path starts.
def trimEnd : List String → List String
  | [] => []
  | first :: rest => first :: (rest.reverse.dropWhile isIdle).reverse

def sibling (path name : String) : String :=
  ofNames (trimEnd (trimEnd (names path)).dropLast ++ [name])

end MarkdownLayout.Path
