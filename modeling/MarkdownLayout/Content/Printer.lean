import MarkdownLayout.Content.Basic

set_option autoImplicit false

namespace MarkdownLayout

mutual
def StyleRef.toJson : StyleRef → Json
  | .named name => .string name
  | .inline style => style.toJson
  | .stack refs => .array (StyleRef.refsJson refs)
def StyleRef.refsJson : List StyleRef → List Json
  | [] => []
  | ref :: rest => ref.toJson :: StyleRef.refsJson rest
end

def CanvasLine.toJson (line : CanvasLine) : Json :=
  .object
    ([("type", .string "line"), ("x1", .float line.x1), ("y1", .float line.y1), ("x2", .float line.x2),
        ("y2", .float line.y2)]
      ++ Style.property "lineColor" .string line.color)

def Run.members (run : Run) : Json.Members :=
  Style.property "style" StyleRef.toJson run.style
    ++ Style.property "id" .string run.id
    ++ Style.property "link" .string run.link
    ++ Style.property "headlineLevel" (fun level => .int level.toNat) run.headlineLevel
    ++ run.props.members

namespace Content

mutual
def toJson : Content → Json
  | .text run literal => .object (("text", .string literal) :: run.members)
  | .group run children => .object (("text", .array (itemsJson children)) :: run.members)
  | .orderedList items start =>
      .object (("ol", .array (itemsJson items)) :: Style.property "start" (fun n => .int n.toNat) start)
  | .unorderedList items => .object [("ul", .array (itemsJson items))]
  | .table body => .object [("table", .object [("body", .array (rowsJson body))])]
  | .canvas margin lines =>
      .object (Style.property "margin" Margin.toJson margin ++ [("canvas", .array (lines.map CanvasLine.toJson))])
  | .image url => .object [("image", .string url)]
def itemsJson : List Content → List Json
  | [] => []
  | content :: rest => content.toJson :: itemsJson rest
def cellsJson : List (List Content) → List Json
  | [] => []
  | cell :: rest => .array (itemsJson cell) :: cellsJson rest
def rowsJson : List (List (List Content)) → List Json
  | [] => []
  | row :: rest => .array (cellsJson row) :: rowsJson rest
end

end Content

end MarkdownLayout
