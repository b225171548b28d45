import MarkdownLayout.Style.Basic

set_option autoImplicit false

namespace MarkdownLayout

-- A style given by its name, by its properties, or by several of these, the later on top.
inductive StyleRef where
  | named (name : String)
  | inline (style : Style)
  | stack (refs : List StyleRef)

structure Run where
  style : Option StyleRef
  id : Option String
  link : Option String
  headlineLevel : Option UInt8
  props : Style

def Run.bare : Run := ⟨none, none, none, none, .empty⟩

structure CanvasLine where
  x1 : Float
  y1 : Float
  x2 : Float
  y2 : Float
  color : Option String

inductive Content where
  | text (run : Run) (text : String)
  | group (run : Run) (children : List Content)
  | orderedList (items : List Content) (start : Option UInt32)
  | unorderedList (items : List Content)
  | table (body : List (List (List Content)))
  | canvas (margin : Option Margin) (lines : List CanvasLine)
  | image (url : String)

namespace Content

instance : Inhabited Content := ⟨.image ""⟩

def run? : Content → Option Run
  | .text run _ | .group run _ => some run
  | _ => none

def headlineLevel (content : Content) : Option UInt8 := content.run?.bind Run.headlineLevel

def mapRun (change : Run → Run) : Content → Content
  | .text run literal => .text (change run) literal
  | .group run children => .group (change run) children
  | content => content

end Content

end MarkdownLayout
