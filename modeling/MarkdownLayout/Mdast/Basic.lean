set_option autoImplicit false

namespace MarkdownLayout.Mdast

inductive Column where
  | left
  | right
  | center
  deriving DecidableEq, Repr

inductive ReferenceForm where
  | shortcut
  | collapsed
  | full
  deriving DecidableEq, Repr

inductive Mark where
  | emphasis
  | strong
  | delete
  deriving DecidableEq, Repr

inductive Leaf where
  | thematicBreak
  | html (value : String)
  | code (lang info : Option String) (value : String)
  | math (info : Option String) (value : String)
  | yaml (value : String)
  | toml (value : String)
  | definition (identifier : String) (label : Option String) (url : String) (title : Option String)
  | text (value : String)
  | inlineCode (value : String)
  | lineBreak
  | image (url : String) (title alt : Option String)
  | imageReference (identifier : String) (label : Option String) (form : ReferenceForm) (alt : Option String)
  | footnoteReference (identifier : String) (label : Option String)
  | inlineMath (value : String)
  deriving DecidableEq, Repr

inductive Parent where
  | paragraph
  | heading (depth : UInt8)
  | blockquote
  | list (ordered : Bool) (start : Option UInt32) (spread : Option Bool)
  | listItem (checked spread : Option Bool)
  | tableCell
  | footnoteDefinition (identifier : String) (label : Option String)
  | mark (mark : Mark)
  | link (url : String) (title : Option String)
  | linkReference (identifier : String) (label : Option String) (form : ReferenceForm)
  | footnote
  deriving DecidableEq, Repr

inductive Node where
  | leaf (leaf : Leaf)
  | parent (parent : Parent) (children : List Node)
  | table (align : List (Option Column)) (rows : List (List (List Node)))
  | tableRow (cells : List (List Node))

instance : Inhabited Node := ⟨.leaf .lineBreak⟩

abbrev Cell := List Node

abbrev Row := List Cell

namespace Node

def text (value : String) : Node := .leaf (.text value)

def paragraph (children : List Node) : Node := .parent .paragraph children

def heading (depth : UInt8) (children : List Node) : Node := .parent (.heading depth) children

def strong (children : List Node) : Node := .parent (.mark .strong) children

def emphasis (children : List Node) : Node := .parent (.mark .emphasis) children

def delete (children : List Node) : Node := .parent (.mark .delete) children

def link (url : String) (children : List Node) : Node := .parent (.link url none) children

-- The child nodes of a parent. Rows and cells of a table are not child nodes.
def children? : Node → Option (List Node)
  | .parent _ children => some children
  | _ => none

end Node

structure Root where
  children : List Node

namespace Root

def empty : Root := ⟨[]⟩

def push (root : Root) (node : Node) : Root := ⟨root.children ++ [node]⟩

def isEmpty (root : Root) : Bool := root.children.isEmpty

def size (root : Root) : Nat := root.children.length

end Root

end MarkdownLayout.Mdast
