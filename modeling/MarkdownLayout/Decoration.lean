import MarkdownLayout.Mdast.Basic
import MarkdownLayout.Style.Basic

set_option autoImplicit false

namespace MarkdownLayout

structure Decoration where
  strong : Bool
  emphasis : Bool
  delete : Bool
  link : Option String
  align : Option Alignment
  deriving DecidableEq, Repr

namespace Decoration

def plain : Decoration := ⟨false, false, false, none, none⟩

def mark (deco : Decoration) : Mdast.Mark → Decoration
  | .strong => { deco with strong := true }
  | .emphasis => { deco with emphasis := true }
  | .delete => { deco with delete := true }

def withLink (deco : Decoration) (url : String) : Decoration := { deco with link := some url }

-- A table cell replaces the alignment of one further out, even where its column has none.
def withAlign (deco : Decoration) (align : Option Alignment) : Decoration := { deco with align }

def inlineStyle (deco : Decoration) : Style :=
  { Style.empty with
    bold := if deco.strong then some true else none
    italics := if deco.emphasis then some true else none
    alignment := deco.align }

end Decoration

end MarkdownLayout
