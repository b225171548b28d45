import MarkdownLayout.Mdast.Basic

set_option autoImplicit false

namespace MarkdownLayout.Mdast

def Leaf.plainText : Leaf → String
  | .html value | .code _ _ value | .math _ value | .yaml value | .toml value => value
  | .text value | .inlineCode value | .inlineMath value => value
  | .image _ _ alt | .imageReference _ _ _ alt => alt.getD ""
  | .thematicBreak | .lineBreak | .definition .. | .footnoteReference .. => ""

mutual
def Node.plainText : Node → String
  | .leaf l => l.plainText
  | .parent _ children => plainText children
  | .table _ rows => rowsText rows
  | .tableRow cells => cellsText cells
def plainText : List Node → String
  | [] => ""
  | node :: rest => node.plainText ++ plainText rest
def cellsText : List Cell → String
  | [] => ""
  | cell :: rest => plainText cell ++ cellsText rest
def rowsText : List Row → String
  | [] => ""
  | row :: rest => cellsText row ++ rowsText rest
end

end MarkdownLayout.Mdast
