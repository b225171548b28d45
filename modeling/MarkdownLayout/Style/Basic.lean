import MarkdownLayout.Style.Margin

set_option autoImplicit false

namespace MarkdownLayout

inductive Alignment where
  | left
  | right
  | center
  | justify
  deriving DecidableEq, Repr

namespace Alignment

def name : Alignment → String
  | .left => "left"
  | .right => "right"
  | .center => "center"
  | .justify => "justify"

def ofName? : String → Option Alignment
  | "left" => some .left
  | "right" => some .right
  | "center" => some .center
  | "justify" => some .justify
  | _ => none

end Alignment

inductive TextLine where
  | underline
  | lineThrough
  | overline
  deriving DecidableEq, Repr

namespace TextLine

def name : TextLine → String
  | .underline => "underline"
  | .lineThrough => "lineThrough"
  | .overline => "overline"

def ofName? : String → Option TextLine
  | "underline" => some .underline
  | "lineThrough" => some .lineThrough
  | "overline" => some .overline
  | _ => none

end TextLine

structure Style where
  font : Option String
  fontSize : Option Float
  lineHeight : Option Float
  bold : Option Bool
  italics : Option Bool
  alignment : Option Alignment
  color : Option String
  background : Option String
  decoration : Option TextLine
  margin : Option Margin
  extra : Dictionary Json
  deriving BEq

namespace Style

def empty : Style := ⟨none, none, none, none, none, none, none, none, none, none, .empty⟩

instance : Inhabited Style := ⟨empty⟩

def isEmpty (style : Style) : Bool := style == empty

def merge (style overlay : Style) : Style where
  font := overlay.font.or style.font
  fontSize := overlay.fontSize.or style.fontSize
  lineHeight := overlay.lineHeight.or style.lineHeight
  bold := overlay.bold.or style.bold
  italics := overlay.italics.or style.italics
  alignment := overlay.alignment.or style.alignment
  color := overlay.color.or style.color
  background := overlay.background.or style.background
  decoration := overlay.decoration.or style.decoration
  margin := overlay.margin.or style.margin
  extra := style.extra.merge (fun _ value => value) overlay.extra

def typedNames : List String :=
  ["font", "fontSize", "lineHeight", "bold", "italics", "alignment", "color", "background", "decoration",
    "margin"]

def property {α : Type} (name : String) (json : α → Json) (value : Option α) : Json.Members :=
  match value with
  | none => []
  | some a => [(name, json a)]

def members (style : Style) : Json.Members :=
  property "font" .string style.font
    ++ property "fontSize" .float style.fontSize
    ++ property "lineHeight" .float style.lineHeight
    ++ property "bold" .bool style.bold
    ++ property "italics" .bool style.italics
    ++ property "alignment" (fun a => .string a.name) style.alignment
    ++ property "color" .string style.color
    ++ property "background" .string style.background
    ++ property "decoration" (fun d => .string d.name) style.decoration
    ++ property "margin" Margin.toJson style.margin
    ++ style.extra.entries

def toJson (style : Style) : Json := .object style.members

open Json in
def ofJson? (l : Leniency) : Json → Option Style
  | .object members => do
      let members ← distinct typedNames members
      let font ← Json.optional string? "font" members
      let fontSize ← Json.optional float? "fontSize" members
      let lineHeight ← Json.optional float? "lineHeight" members
      let bold ← Json.optional bool? "bold" members
      let italics ← Json.optional bool? "italics" members
      let alignment ← Json.optional (alternative? l Alignment.ofName?) "alignment" members
      let color ← Json.optional string? "color" members
      let background ← Json.optional string? "background" members
      let decoration ← Json.optional (alternative? l TextLine.ofName?) "decoration" members
      let margin ← Json.optional Margin.ofJson? "margin" members
      let extra := Dictionary.ofList (orderedMembers (members.filter fun member => member.1 ∉ typedNames))
      some { font, fontSize, lineHeight, bold, italics, alignment, color, background, decoration, margin, extra }
  | _ => none

end Style

end MarkdownLayout
