import MarkdownLayout.Document.Printer

set_option autoImplicit false

namespace MarkdownLayout

inductive Rendered where
  | buffer (text : String)
  | blob (mediaType : String) (text : String)

namespace Rendered

def ofMode (mode : OutputMode) (mediaType text : String) : Rendered :=
  match mode with
  | .buffer => .buffer text
  | .blob => .blob mediaType text

def text : Rendered → String
  | .buffer text => text
  | .blob _ text => text

def mediaType? : Rendered → Option String
  | .buffer _ => none
  | .blob mediaType _ => some mediaType

end Rendered

def jsonMediaType : String := "application/json"

def buildWith {α : Type} (root : Mdast.Root) (options : Options) (images : ImageMap)
    (build : Definition → Except Fault α) : Except Fault α := do
  build (← Definition.ofRoot root options images)

def imagesOf (root : Mdast.Root) (options : Options) : Except Fault ImageMap :=
  match options.resolver with
  | some resolver => resolver.resolve root
  | none => .ok .empty

def render (root : Mdast.Root) (options : Options) (indented : Bool) : Except Fault Rendered := do
  let images ← imagesOf root options
  buildWith root options images fun definition =>
    .ok (.ofMode options.output jsonMediaType (definition.text indented))

end MarkdownLayout
