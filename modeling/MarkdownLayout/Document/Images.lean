import MarkdownLayout.Document.Fault
import MarkdownLayout.Mdast.Image

set_option autoImplicit false

namespace MarkdownLayout

abbrev ImageResolver := String → Except Fault String

namespace ImageResolver

def ofMap (images : ImageMap) : ImageResolver := fun url =>
  match images.get? url with
  | some data => .ok data
  | none => .error (.imageNotFound url)

def resolveInto (resolver : ImageResolver) (found : ImageMap) : List String → Except Fault ImageMap
  | [] => .ok found
  | url :: rest => do
      let data ← resolver url
      resolver.resolveInto (found.insert url data) rest

def resolve (resolver : ImageResolver) (root : Mdast.Root) : Except Fault ImageMap :=
  resolver.resolveInto .empty (Mdast.distinctUrls root.children)

end ImageResolver

end MarkdownLayout
