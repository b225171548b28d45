import MarkdownLayout.Json.Basic
import MarkdownLayout.Mdast.Kind

set_option autoImplicit false

namespace MarkdownLayout.Mdast

def Column.name : Column → String
  | .left => "left"
  | .right => "right"
  | .center => "center"

def ReferenceForm.name : ReferenceForm → String
  | .shortcut => "shortcut"
  | .collapsed => "collapsed"
  | .full => "full"

def optionJson {α : Type} (json : α → Json) : Option α → Json
  | none => .null
  | some a => json a

def textJson : Option String → Json := optionJson .string

def alignJson (align : List (Option Column)) : Json :=
  .array (align.map (optionJson fun column => .string column.name))

def Leaf.attributes : Leaf → Json.Members
  | .thematicBreak | .lineBreak => []
  | .html value | .yaml value | .toml value | .text value | .inlineCode value | .inlineMath value =>
      [("value", .string value)]
  | .code lang info value => [("lang", textJson lang), ("meta", textJson info), ("value", .string value)]
  | .math info value => [("meta", textJson info), ("value", .string value)]
  | .definition identifier label url title =>
      [("identifier", .string identifier), ("label", textJson label), ("url", .string url),
        ("title", textJson title)]
  | .image url title alt => [("url", .string url), ("title", textJson title), ("alt", textJson alt)]
  | .imageReference identifier label form alt =>
      [("identifier", .string identifier), ("label", textJson label),
        ("referenceType", .string form.name), ("alt", textJson alt)]
  | .footnoteReference identifier label => [("identifier", .string identifier), ("label", textJson label)]

def Parent.attributes : Parent → Json.Members
  | .paragraph | .blockquote | .tableCell | .mark _ | .footnote => []
  | .heading depth => [("depth", .int depth.toNat)]
  | .list ordered start spread =>
      [("ordered", .bool ordered), ("start", optionJson (fun n => .int n.toNat) start),
        ("spread", optionJson .bool spread)]
  | .listItem checked spread => [("checked", optionJson .bool checked), ("spread", optionJson .bool spread)]
  | .footnoteDefinition identifier label => [("identifier", .string identifier), ("label", textJson label)]
  | .link url title => [("url", .string url), ("title", textJson title)]
  | .linkReference identifier label form =>
      [("identifier", .string identifier), ("label", textJson label), ("referenceType", .string form.name)]

def kindMember (kind : Kind) : String × Json := ("type", .string kind.name)

mutual
def Node.toJson : Node → Json
  | .leaf l => .object (kindMember l.kind :: l.attributes)
  | .parent p children =>
      .object (kindMember p.kind :: (p.attributes ++ [("children", .array (nodesJson children))]))
  | .table align rows =>
      .object [kindMember .table, ("align", alignJson align), ("children", .array (rowsJson rows))]
  | .tableRow cells => .object [kindMember .tableRow, ("children", .array (cellsJson cells))]
def nodesJson : List Node → List Json
  | [] => []
  | node :: rest => node.toJson :: nodesJson rest
def cellsJson : List Cell → List Json
  | [] => []
  | cell :: rest => .object [("children", .array (nodesJson cell))] :: cellsJson rest
def rowsJson : List Row → List Json
  | [] => []
  | row :: rest => .object [("children", .array (cellsJson row))] :: rowsJson rest
end

def Root.toJson (root : Root) : Json := .object [("children", .array (nodesJson root.children))]

end MarkdownLayout.Mdast
