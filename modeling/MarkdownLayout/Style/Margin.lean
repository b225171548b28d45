import MarkdownLayout.Json.Record

set_option autoImplicit false

namespace MarkdownLayout

inductive Margin where
  | uniform (all : Float)
  | symmetric (horizontal vertical : Float)
  | sides (left top right bottom : Float)
  deriving BEq

namespace Margin

def expand : Margin → Margin
  | .uniform all => .sides all all all all
  | margin => margin

def toJson : Margin → Json
  | .uniform all => .float all
  | .symmetric horizontal vertical => .array [.float horizontal, .float vertical]
  | .sides left top right bottom => .array [.float left, .float top, .float right, .float bottom]

def ofJson? : Json → Option Margin
  | .array [horizontal, vertical] => do
      some (.symmetric (← horizontal.float?) (← vertical.float?))
  | .array [left, top, right, bottom] => do
      some (.sides (← left.float?) (← top.float?) (← right.float?) (← bottom.float?))
  | json => json.float?.map .uniform

end Margin

end MarkdownLayout
